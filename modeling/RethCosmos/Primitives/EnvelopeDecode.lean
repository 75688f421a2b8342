import RethCosmos.Primitives.Envelope

/-!
# Decoding Cosmos transactions from a stream

The typed decoder cuts its item out of whatever follows the type byte. It accepts
exactly the bodies of the wire encodings, and these are prefix-free, so the cut is
where the encoder stopped.
-/

namespace RethCosmos.Primitives

open Encoding Rust Upstream CosmosAuth
open Crypto (Suite)

/-- What the encoder writes behind the type byte. -/
def wireBody (op : Operation) (key signature : List UInt8) : List UInt8 :=
  list (wireFields op key signature)

theorem encodeWire_eq (op : Operation) (key signature : List UInt8) :
    encodeWire op key signature = txType :: wireBody op key signature := rfl

/-- An accepted raw transaction is the type byte and an encoder's body. -/
theorem decodeWire_cons_eq_ok_iff {body : List UInt8} {op : Operation} {key : FixedBytes 33}
    {signature : FixedBytes 64} :
    decodeWire (txType :: body) = .ok (op, key, signature) ↔
      op.WithinLimits ∧ wireBody op key.data signature.data = body := by
  rw [decodeWire_eq_ok_iff, encodeWire_eq, List.cons.injEq, eq_self_iff_true, true_and,
    eq_comm (a := body)]

/-- Only one prefix of a buffer can be an accepted body: the list header says where the
body ends. -/
theorem body_unique {body body' rest rest' : List UInt8}
    {parts parts' : Operation × FixedBytes 33 × FixedBytes 64}
    (hsame : body ++ rest = body' ++ rest') (hwire : decodeWire (txType :: body) = .ok parts)
    (hwire' : decodeWire (txType :: body') = .ok parts') : body = body' ∧ rest = rest' := by
  obtain ⟨op, key, signature⟩ := parts
  obtain ⟨op', key', signature'⟩ := parts'
  obtain ⟨hlimits, rfl⟩ := decodeWire_cons_eq_ok_iff.mp hwire
  obtain ⟨hlimits', rfl⟩ := decodeWire_cons_eq_ok_iff.mp hwire'
  have hfields := hlimits.wireFields_length_le key signature
  have hfields' := hlimits'.wireFields_length_le key' signature'
  obtain ⟨hbody, hrest⟩ := Rlp.list_roundTrips.append_inj (hfields.trans_lt (by norm_num))
    (hfields'.trans_lt (by norm_num)) hsame
  exact ⟨congrArg Rlp.encodeList hbody, hrest⟩

namespace CosmosEnvelope

variable {T : Type} [Suite] [Decodable2718 T]

/-- What a call with the Cosmos type byte can do: fail where it started, or cut off an
accepted body and move behind it. -/
theorem typedDecode_cases (buf : List UInt8) :
    (∃ e, typedDecode (T := T) txType buf = (.error e, buf)) ∨
    ∃ len op key signature tx, decodeWire (txType :: buf.take len) = .ok (op, key, signature) ∧
      CosmosSigned.new op key.data signature.data = .ok tx ∧
      typedDecode (T := T) txType buf = (.ok (.cosmos tx), buf.drop len) := by
  simp only [typedDecode, ne_eq, not_true_eq_false, if_false, Cursor.remaining_bind]
  -- every check stands in front of the assignment that moves the cursor
  cases hheader : Rlp.Header.decode buf with
  | error e => exact Or.inl ⟨.rlpError e, by simp [Except.mapError]⟩
  | ok read =>
      obtain ⟨h, body⟩ := read
      simp only [Except.mapError, Cursor.lift_ok_bind]
      split
      next => exact Or.inl ⟨_, rfl⟩
      next =>
        generalize hraw : buf.take (h.length + h.payloadLength) = item
        cases hwire : decodeWire (txType :: item) with
        | error e => exact Or.inl ⟨_, rfl⟩
        | ok parts =>
            obtain ⟨op, key, signature⟩ := parts
            simp only [Cursor.lift_ok_bind]
            cases hnew : CosmosSigned.new op key.data signature.data with
            | error e => exact Or.inl ⟨_, rfl⟩
            | ok tx =>
                right
                exact ⟨h.length + h.payloadLength, op, key, signature, tx, by rw [hraw, hwire],
                  hnew, rfl⟩

/-- The body of an accepted encoding is cut out of anything behind it. -/
theorem typedDecode_wireBody {op : Operation} (hlimits : op.WithinLimits) (key : FixedBytes 33)
    (signature : FixedBytes 64) (rest : List UInt8) :
    typedDecode (T := T) txType (wireBody op key.data signature.data ++ rest) =
      (.ok (.cosmos (CosmosSigned.ofParts op key.data signature.data)), rest) := by
  have hfields := hlimits.wireFields_length_le key signature
  have hsize := hlimits.encodeWire_length_le key signature
  have hwire := decodeWire_encodeWire hlimits key signature
  have hnew := CosmosSigned.new_ofParts hlimits key.length_eq signature.length_eq
  have hheader := Rlp.decode_encodeList (hfields.trans_lt (by norm_num)) rest
  have hlength := Rlp.encodeList_length (wireFields op key.data signature.data)
  rw [encodeWire_eq, List.length_cons] at hsize
  rw [encodeWire_eq] at hwire
  simp only [wireBody, list] at hsize hwire ⊢
  have hbound : ¬ ((Rlp.encodeList (wireFields op key.data signature.data)).length >
      maxRawTx - 1 ∨ (Rlp.encodeList (wireFields op key.data signature.data)).length >
        (Rlp.encodeList (wireFields op key.data signature.data) ++ rest).length) := by
    rw [List.length_append]
    omega
  simp only [typedDecode, ne_eq, not_true_eq_false, if_false, Cursor.remaining_bind, hheader,
    Except.mapError, Cursor.lift_ok_bind, ← hlength, false_or, hbound, List.take_left,
    List.drop_left, hwire, hnew, Cursor.assign_bind, Cursor.pure_apply]

theorem typedDecode_of_decodeWire {body rest : List UInt8} {op : Operation}
    {key : FixedBytes 33} {signature : FixedBytes 64}
    (hwire : decodeWire (txType :: body) = .ok (op, key, signature)) :
    typedDecode (T := T) txType (body ++ rest) =
      (.ok (.cosmos (CosmosSigned.ofParts op key.data signature.data)), rest) := by
  obtain ⟨hlimits, rfl⟩ := decodeWire_cons_eq_ok_iff.mp hwire
  exact typedDecode_wireBody hlimits key signature rest

/-- Success is always the acceptance of a leading body by the wire decoder. -/
theorem decodeWire_of_typedDecode {buf rest : List UInt8} {tx : CosmosEnvelope T}
    (hread : typedDecode txType buf = (.ok tx, rest)) :
    ∃ body op key signature, buf = body ++ rest ∧
      decodeWire (txType :: body) = .ok (op, key, signature) ∧
      tx = .cosmos (CosmosSigned.ofParts op key.data signature.data) := by
  rcases typedDecode_cases (T := T) buf with
    ⟨e, heq⟩ | ⟨len, op, key, signature, signed, hwire, hnew, heq⟩
  · simp [heq] at hread
  · rw [heq, Prod.mk.injEq, Except.ok.injEq] at hread
    obtain ⟨rfl, rfl⟩ := hread
    obtain ⟨_, _, _, rfl⟩ := CosmosSigned.new_eq_ok_iff.mp hnew
    exact ⟨buf.take len, op, key, signature, (List.take_append_drop len buf).symm, hwire, rfl⟩

/-- The wire bytes of a canonical transaction are read back as that transaction. -/
theorem typedDecode_raw {tx : CosmosSigned} (h : tx.Canonical) (rest : List UInt8) :
    ∃ body, tx.raw = txType :: body ∧
      typedDecode (T := T) txType (body ++ rest) = (.ok (.cosmos tx), rest) := by
  have hparts : CosmosSigned.ofParts tx.operation h.key.data
      (CosmosSigned.Canonical.scalars tx).data = tx := h.eq_ofParts.symm
  have hraw := h.raw_eq
  have hwire := h.decodeWire_raw
  rw [encodeWire_eq] at hraw
  rw [hraw] at hwire
  refine ⟨_, hraw, ?_⟩
  rw [typedDecode_of_decodeWire hwire, hparts]

theorem decode2718Exact_cosmos_eq_ok_iff {body : List UInt8} {tx : CosmosEnvelope T} :
    decode2718Exact (txType :: body) = .ok tx ↔
      ∃ op key signature, decodeWire (txType :: body) = .ok (op, key, signature) ∧
        tx = .cosmos (CosmosSigned.ofParts op key.data signature.data) := by
  have htype : txType ≤ (0x7f : UInt8) := by decide
  rw [decode2718Exact_eq_ok_iff, decode2718_typed htype]
  constructor
  · intro hread
    obtain ⟨body', op, key, signature, hbody, hwire, htx⟩ := decodeWire_of_typedDecode hread
    rw [List.append_nil] at hbody
    subst hbody
    exact ⟨op, key, signature, hwire, htx⟩
  · intro hparts
    obtain ⟨op, key, signature, hwire, rfl⟩ := hparts
    have hread := @typedDecode_of_decodeWire T _ _ body [] op key signature hwire
    rwa [List.append_nil] at hread

end CosmosEnvelope

/-- An accepted raw transaction begins with the type byte. -/
theorem exists_body_of_decodeWire {raw : List UInt8}
    {parts : Operation × FixedBytes 33 × FixedBytes 64} (hwire : decodeWire raw = .ok parts) :
    ∃ body, raw = txType :: body := by
  obtain ⟨op, key, signature⟩ := parts
  exact ⟨_, (decodeWire_eq_ok_iff.mp hwire).2⟩

/-- The streaming decoder accepts a buffer exactly when the wire decoder accepts a prefix
of it, which is then unique, and it moves the cursor only on success. The exact decoder
agrees with the wire decoder, whose language is prefix-free. -/
theorem typed_decoder_agrees_with_wire_decoder (T : Type) [Suite] [Decodable2718 T] :
    (∀ buf rest : List UInt8,
      (∃ tx : CosmosEnvelope T, typedDecode txType buf = (.ok tx, rest)) ↔
        ∃ body parts, buf = body ++ rest ∧ decodeWire (txType :: body) = .ok parts) ∧
    (∀ (body body' rest rest' : List UInt8)
      (parts parts' : Operation × FixedBytes 33 × FixedBytes 64),
      body ++ rest = body' ++ rest' → decodeWire (txType :: body) = .ok parts →
        decodeWire (txType :: body') = .ok parts' → body = body' ∧ rest = rest') ∧
    (∀ (body rest : List UInt8) (op : Operation) (key : FixedBytes 33)
      (signature : FixedBytes 64), decodeWire (txType :: body) = .ok (op, key, signature) →
        ∃ tx : CosmosSigned,
          typedDecode txType (body ++ rest) = (.ok (CosmosEnvelope.cosmos (T := T) tx), rest) ∧
          tx.operation = op ∧ tx.publicKey = key.data ∧ tx.signature.v = false ∧
          tx.signature.asBytes.take 64 = signature.data ∧ tx.raw = txType :: body) ∧
    (∀ (buf left : List UInt8) (e : Eip2718Error),
      typedDecode (α := CosmosEnvelope T) txType buf = (.error e, left) → left = buf) ∧
    (∀ raw : List UInt8, raw.head? = some txType →
      ((∃ tx : CosmosEnvelope T, decode2718Exact raw = .ok tx) ↔
        ∃ parts, decodeWire raw = .ok parts)) ∧
    (∀ (raw raw' : List UInt8) (parts parts' : Operation × FixedBytes 33 × FixedBytes 64),
      decodeWire raw = .ok parts → decodeWire raw' = .ok parts' → raw <+: raw' → raw = raw') := by
  refine ⟨?_, ?_, ?_, ?_, ?_, ?_⟩
  · intro buf rest
    constructor
    · intro hread
      obtain ⟨tx, hread⟩ := hread
      obtain ⟨body, op, key, signature, hbuf, hwire, _⟩ :=
        CosmosEnvelope.decodeWire_of_typedDecode hread
      exact ⟨body, _, hbuf, hwire⟩
    · intro hwire
      obtain ⟨body, ⟨op, key, signature⟩, rfl, hwire⟩ := hwire
      exact ⟨_, CosmosEnvelope.typedDecode_of_decodeWire hwire⟩
  · intro body body' rest rest' parts parts' hsame hwire hwire'
    exact body_unique hsame hwire hwire'
  · intro body rest op key signature hwire
    refine ⟨_, CosmosEnvelope.typedDecode_of_decodeWire hwire, rfl, rfl, rfl, ?_, ?_⟩
    · exact Signature.take_asBytes_ofScalars signature.length_eq
    · exact (decodeWire_eq_ok_iff.mp hwire).2.symm
  · intro buf left e hread
    rcases CosmosEnvelope.typedDecode_cases (T := T) buf with
      ⟨e', heq⟩ | ⟨_, _, _, _, _, _, _, heq⟩
    · exact (congrArg Prod.snd (heq.symm.trans hread)).symm
    · exact absurd (congrArg Prod.fst (heq.symm.trans hread)) (by simp)
  · intro raw hhead
    obtain ⟨body, rfl⟩ : ∃ body, raw = txType :: body := by
      cases raw with
      | nil => simp at hhead
      | cons ty body => exact ⟨body, by simpa using hhead⟩
    constructor
    · intro hread
      obtain ⟨tx, hread⟩ := hread
      obtain ⟨op, key, signature, hwire, _⟩ :=
        CosmosEnvelope.decode2718Exact_cosmos_eq_ok_iff.mp hread
      exact ⟨_, hwire⟩
    · intro hwire
      obtain ⟨⟨op, key, signature⟩, hwire⟩ := hwire
      exact ⟨_, CosmosEnvelope.decode2718Exact_cosmos_eq_ok_iff.mpr
        ⟨op, key, signature, hwire, rfl⟩⟩
  · intro raw raw' parts parts' hwire hwire' hprefix
    obtain ⟨tail, rfl⟩ := hprefix
    obtain ⟨body, rfl⟩ := exists_body_of_decodeWire hwire
    have hsame : body ++ tail = (body ++ tail) ++ [] := (List.append_nil _).symm
    obtain ⟨hbody, _⟩ := body_unique hsame hwire hwire'
    rw [List.cons_append, ← hbody]

end RethCosmos.Primitives
