import RethCosmos.CosmosAuth.Operation
import RethCosmos.Encoding.RlpLaws
import Mathlib.Tactic.NormNum

/-!
# The accepted encodings

The payload and wire decoders accept exactly the canonical encodings of operations
within the protocol limits. Acceptance of nothing else is the decoders' final
comparison; acceptance of every such encoding needs the items to be self-delimiting
and the longest encoding to stay within the raw size bound.
-/

namespace RethCosmos.CosmosAuth

open Encoding Rust

/-! ## Reading items -/

theorem liftRlp_complete {α : Type} {valid : α → Prop} {enc : α → List UInt8}
    {dec : Decoder Rlp.Error UInt8 α} (h : Exact valid enc dec) {a : α} (ha : valid a)
    (rest : List UInt8) : liftRlp dec (enc a ++ rest) = .ok (a, rest) := by
  simp [liftRlp, h.complete a rest ha, Except.mapError]

theorem liftRlp_uint {bits : Nat} (hbits : bits = 8 * (bits / 8)) (hwidth : bits / 8 < 56)
    (x : BitVec bits) (rest : List UInt8) :
    liftRlp (Rlp.decodeUint bits) (Rlp.encodeUint x ++ rest) = .ok (x, rest) :=
  liftRlp_complete (Rlp.uint_exact hbits hwidth) trivial rest

theorem liftRlp_fixed {n : Nat} (hn : n < 256 ^ 8) (bytes : FixedBytes n) (rest : List UInt8) :
    liftRlp (Rlp.decodeFixed n) (Rlp.encodeFixed bytes ++ rest) = .ok (bytes, rest) :=
  liftRlp_complete (Rlp.fixed_exact hn) trivial rest

theorem liftRlp_bytes {bytes : List UInt8} (h : bytes.length < 256 ^ 8) (rest : List UInt8) :
    liftRlp Rlp.decodeBytes (Rlp.encodeBytes bytes ++ rest) = .ok (bytes, rest) :=
  liftRlp_complete Rlp.bytes_exact h rest

theorem listBody_list {fields : List UInt8} (h : fields.length < 256 ^ 8) :
    listBody (list fields) = .ok fields := by
  have hread := Rlp.decode_encodeList h []
  rw [List.append_nil, List.append_nil] at hread
  simp [listBody, list, liftRlp, hread, Except.mapError]

/-! ## Lengths -/

/-- What the limits check of an operation asks for. -/
structure Operation.WithinLimits (op : Operation) : Prop where
  input_length_le : op.input.length ≤ maxCalldata
  gasLimit_le : op.gasLimit ≤ maxGas
  le_gasLimit : 21000 ≤ op.gasLimit
  nonce_ne_max : op.nonce ≠ BitVec.allOnes 64
  maxPriorityFee_le : op.maxPriorityFeePerGas ≤ op.maxFeePerGas

theorem Operation.validateLimits_eq_ok_iff {op : Operation} :
    op.validateLimits = .ok () ↔ op.WithinLimits := by
  unfold validateLimits
  constructor
  · intro hok
    split at hok
    next => simp at hok
    next hno =>
      simp only [gt_iff_lt, not_or, Nat.not_lt, BitVec.not_lt] at hno
      obtain ⟨hinput, hgas, hlow, hnonce, hfee⟩ := hno
      exact ⟨hinput, hgas, hlow, hnonce, hfee⟩
  · intro h
    apply if_neg
    simp only [gt_iff_lt, not_or, Nat.not_lt, BitVec.not_lt]
    exact ⟨h.input_length_le, h.gasLimit_le, h.le_gasLimit, h.nonce_ne_max, h.maxPriorityFee_le⟩

theorem Operation.validateLimits_eq (op : Operation) :
    op.validateLimits = .ok () ∨ op.validateLimits = .error .limit := by
  unfold validateLimits
  split
  · exact Or.inr rfl
  · exact Or.inl rfl

namespace Operation

theorem payloadItems_length_le (op : Operation) :
    op.payloadItems.length ≤ Rlp.lengthBytes op.input.data + 190 := by
  have hprotocol : (Rlp.encodeBytes protocol).length = 19 := by decide
  have hversion := Rlp.encodeUint_length_le version
  have hchain := Rlp.encodeUint_length_le op.chainId
  have hgenesis := Rlp.encodeFixed_length_le (by decide) op.genesisHash
  have hsender := Rlp.encodeFixed_length_le (by decide) op.sender
  have hnonce := Rlp.encodeUint_length_le op.nonce
  have hto := Rlp.encodeFixed_length_le (by decide) op.«to»
  have hvalue := Rlp.encodeUint_length_le op.value
  have hgas := Rlp.encodeUint_length_le op.gasLimit
  have hfee := Rlp.encodeUint_length_le op.maxFeePerGas
  have htip := Rlp.encodeUint_length_le op.maxPriorityFeePerGas
  simp only [payloadItems, fields, List.length_append, Rlp.encodeBytes_length, hprotocol] at *
  omega

/-- Slices keep the whole item list below the largest `usize`. -/
theorem payloadItems_length_lt (op : Operation) : op.payloadItems.length < 256 ^ 8 := by
  have hitems := op.payloadItems_length_le
  have hinput := op.input.length_lt
  have hitem := Rlp.lengthBytes_le_add_nine op.input.data
  have hpow : (2 : Nat) ^ 63 + 199 < 256 ^ 8 := by norm_num
  omega

theorem payload_length (op : Operation) :
    op.payload.length =
      Rlp.Header.length ⟨true, op.payloadItems.length⟩ + op.payloadItems.length :=
  Rlp.encodeList_length op.payloadItems

/-- The worst case: 32 KiB of calldata, maximal integers. -/
theorem WithinLimits.payload_length_le {op : Operation} (h : op.WithinLimits) :
    op.payload.length ≤ 32964 := by
  have hinput : op.input.data.length ≤ 32768 := h.input_length_le
  have hitems := op.payloadItems_length_le
  have hitem := @Rlp.lengthBytes_le op.input.data (by omega)
  have hheader := @Rlp.Header.length_le_three ⟨true, op.payloadItems.length⟩
    (by simp only; omega)
  rw [payload_length]
  omega

theorem WithinLimits.wireFields_length_le {op : Operation} (h : op.WithinLimits)
    (key : FixedBytes 33) (signature : FixedBytes 64) :
    (wireFields op key.data signature.data).length ≤ 33070 := by
  have hpayload := h.payload_length_le
  have hitem := @Rlp.lengthBytes_le op.payload (by omega)
  have hkey := @Rlp.lengthBytes_le key.data (by rw [key.length_eq]; omega)
  have hsignature := @Rlp.lengthBytes_le signature.data (by rw [signature.length_eq]; omega)
  rw [key.length_eq] at hkey
  rw [signature.length_eq] at hsignature
  simp only [wireFields, List.length_append, Rlp.encodeBytes_length]
  omega

theorem WithinLimits.encodeWire_length_le {op : Operation} (h : op.WithinLimits)
    (key : FixedBytes 33) (signature : FixedBytes 64) :
    (encodeWire op key.data signature.data).length ≤ maxRawTx := by
  have hfields := h.wireFields_length_le key signature
  have hheader := @Rlp.Header.length_le_three
    ⟨true, (wireFields op key.data signature.data).length⟩ (by simp only; omega)
  have hmax : 33074 ≤ maxRawTx := by decide
  rw [encodeWire, list, List.length_cons, Rlp.encodeList_length]
  omega

/-! ## The payload decoder -/

/-- The fields of every operation are read back, item by item. -/
theorem decodeFields_complete : RoundTrips (fun _ => True) fields decodeFields := by
  intro op rest _
  have hu64 := @liftRlp_uint 64 (by decide) (by decide)
  have hu128 := @liftRlp_uint 128 (by decide) (by decide)
  have hu256 := @liftRlp_uint 256 (by decide) (by decide)
  have hfixed32 := @liftRlp_fixed 32 (by decide)
  have hfixed20 := @liftRlp_fixed 20 (by decide)
  have hinput := @liftRlp_bytes op.input.data (op.input.length_lt.trans (by norm_num))
  simp only [decodeFields, fields, List.append_assoc, hu64, hu128, hu256, hfixed32, hfixed20,
    hinput, ok_bind, pure_eq_ok, Bytes.copyFromSlice_self]

theorem WithinLimits.decodePayload_payload {op : Operation} (h : op.WithinLimits) :
    decodePayload op.payload = .ok op := by
  have hsize : ¬ op.payload.length > maxRawTx :=
    Nat.not_lt.mpr (h.payload_length_le.trans (by decide))
  have hbody : listBody op.payload = .ok op.payloadItems := listBody_list op.payloadItems_length_lt
  have hprotocol := @liftRlp_bytes protocol (by decide)
  have hversion := liftRlp_uint (by decide : 8 = 8 * (8 / 8)) (by decide) version
  have hfields := decodeFields_complete op [] trivial
  rw [List.append_nil] at hfields
  have hlimits := validateLimits_eq_ok_iff.mpr h
  simp only [decodePayload, hsize, hbody, ok_bind, if_false, pure_eq_ok]
  -- the items are read one after the other, each from the rest of the one before
  simp only [ok_bind, payloadItems, List.append_assoc, hprotocol, hversion, hfields, ne_eq,
    not_true_eq_false, or_self, if_false, hlimits]

/-- Acceptance ends with the comparison and the limits check, whatever was read. -/
theorem decodePayload_sound {raw : List UInt8} {op : Operation}
    (hread : decodePayload raw = .ok op) : op.WithinLimits ∧ raw = op.payload := by
  -- of the intermediate results only the comparison and the limits matter
  simp only [decodePayload, throw_eq_error, error_bind,
    ite_error_eq_ok_iff, bind_eq_ok_iff, pure_eq_ok, Except.ok.injEq, not_or, ne_eq,
    Decidable.not_not] at hread
  obtain ⟨_, _, _, _, _, _, _, _, read, _, ⟨_, hsame⟩, _, hlimits, rfl⟩ := hread
  exact ⟨validateLimits_eq_ok_iff.mp hlimits, hsame.symm⟩

theorem decodePayload_eq_ok_iff {raw : List UInt8} {op : Operation} :
    decodePayload raw = .ok op ↔ op.WithinLimits ∧ raw = op.payload := by
  constructor
  · exact decodePayload_sound
  · intro h
    rw [h.2]
    exact h.1.decodePayload_payload

end Operation

/-! ## The wire decoder -/

theorem decodeWire_encodeWire {op : Operation} (h : op.WithinLimits) (key : FixedBytes 33)
    (signature : FixedBytes 64) :
    decodeWire (encodeWire op key.data signature.data) = .ok (op, key, signature) := by
  have hsize : ¬ (encodeWire op key.data signature.data).length > maxRawTx :=
    Nat.not_lt.mpr (h.encodeWire_length_le key signature)
  have hfields := h.wireFields_length_le key signature
  have hbody : listBody ((encodeWire op key.data signature.data).drop 1) =
      .ok (wireFields op key.data signature.data) :=
    listBody_list (hfields.trans_lt (by norm_num))
  have hpayload := @liftRlp_bytes op.payload (h.payload_length_le.trans_lt (by norm_num))
  have hkey := @liftRlp_bytes key.data (by rw [key.length_eq]; norm_num)
  have hsignature := @liftRlp_bytes signature.data (by rw [signature.length_eq]; norm_num) []
  rw [List.append_nil] at hsignature
  have htype : (encodeWire op key.data signature.data).head? = some txType := rfl
  simp only [decodeWire, hsize, htype, hbody, ok_bind, if_false, pure_eq_ok, ne_eq,
    not_true_eq_false]
  simp only [ok_bind, wireFields, List.append_assoc, hpayload, hkey, hsignature,
    h.decodePayload_payload, FixedBytes.ofSlice?_data, not_true_eq_false, or_self, if_false]

theorem decodeWire_sound {raw : List UInt8} {op : Operation} {key : FixedBytes 33}
    {signature : FixedBytes 64} (hread : decodeWire raw = .ok (op, key, signature)) :
    op.WithinLimits ∧ raw = encodeWire op key.data signature.data := by
  simp only [decodeWire, throw_eq_error, error_bind, ite_error_eq_ok_iff, bind_eq_ok_iff] at hread
  obtain ⟨_, _, _, _, _, _, _, _, _, _, op', hop, hread⟩ := hread
  split at hread
  next key' _ =>
    split at hread
    next signature' _ =>
      simp only [ite_error_eq_ok_iff, pure_eq_ok, Except.ok.injEq, Prod.mk.injEq,
        not_or, ne_eq, Decidable.not_not] at hread
      obtain ⟨⟨_, hsame⟩, rfl, rfl, rfl⟩ := hread
      exact ⟨(Operation.decodePayload_sound hop).1, hsame.symm⟩
    next => simp at hread
  next => simp at hread

theorem decodeWire_eq_ok_iff {raw : List UInt8} {op : Operation} {key : FixedBytes 33}
    {signature : FixedBytes 64} :
    decodeWire raw = .ok (op, key, signature) ↔
      op.WithinLimits ∧ raw = encodeWire op key.data signature.data := by
  constructor
  · exact decodeWire_sound
  · intro h
    rw [h.2]
    exact decodeWire_encodeWire h.1 key signature

/-- The decoders accept the canonical encodings of operations within the limits and no
other byte string, and the raw size bound never turns such an encoding away. -/
theorem decoders_accept_exactly_canonical_encodings :
    (∀ (raw : List UInt8) (op : Operation) (key : FixedBytes 33) (signature : FixedBytes 64),
      decodeWire raw = .ok (op, key, signature) ↔
        op.validateLimits = .ok () ∧ raw = encodeWire op key.data signature.data) ∧
    (∀ (raw : List UInt8) (op : Operation),
      Operation.decodePayload raw = .ok op ↔
        op.validateLimits = .ok () ∧ raw = op.payload) ∧
    (∀ (op : Operation) (key : FixedBytes 33) (signature : FixedBytes 64),
      op.validateLimits = .ok () →
        op.payload.length ≤ maxRawTx ∧
        (encodeWire op key.data signature.data).length ≤ maxRawTx) := by
  refine ⟨?_, ?_, ?_⟩
  · intro raw op key signature
    rw [Operation.validateLimits_eq_ok_iff]
    exact decodeWire_eq_ok_iff
  · intro raw op
    rw [Operation.validateLimits_eq_ok_iff]
    exact Operation.decodePayload_eq_ok_iff
  · intro op key signature hlimits
    have h := Operation.validateLimits_eq_ok_iff.mp hlimits
    exact ⟨h.payload_length_le.trans (by decide), h.encodeWire_length_le key signature⟩

end RethCosmos.CosmosAuth
