import RethCosmos.Client.Protocol
import RethCosmos.CosmosAuth.SignDoc
import RethCosmos.Primitives.Sample

/-!
# Agreement of the client and the node

A client operation corresponds to the node's operation with the same field values. The
client's range and length checks are what makes such an operation exist, its limit
checks are the node's, and on corresponding operations both sides write the same bytes.
-/

namespace RethCosmos.Client

open Encoding Rust CosmosAuth

/-- The client fields that have a value in the node's field types. -/
structure Representable (op : Operation) : Prop where
  chainId : 0 ≤ op.chainId ∧ op.chainId < 2 ^ 64
  genesisHash : ∃ bytes, getBytes op.genesisHash = .ok bytes ∧ bytes.length = 32
  sender : ∃ bytes, getBytes op.sender = .ok bytes ∧ bytes.length = 20
  nonce : 0 ≤ op.nonce ∧ op.nonce < 2 ^ 64
  «to» : ∃ bytes, getBytes op.«to» = .ok bytes ∧ bytes.length = 20
  value : 0 ≤ op.value ∧ op.value < 2 ^ 256
  input : ∃ bytes : Bytes, getBytes op.input = .ok bytes.data
  gasLimit : 0 ≤ op.gasLimit ∧ op.gasLimit < 2 ^ 64
  maxFeePerGas : 0 ≤ op.maxFeePerGas ∧ op.maxFeePerGas < 2 ^ 128
  maxPriorityFeePerGas : 0 ≤ op.maxPriorityFeePerGas ∧ op.maxPriorityFeePerGas < 2 ^ 128

/-- The same value in every field. -/
structure Corresponds (op : Operation) (node : CosmosAuth.Operation) : Prop where
  chainId : op.chainId = node.chainId.toNat
  genesisHash : getBytes op.genesisHash = .ok node.genesisHash.data
  sender : getBytes op.sender = .ok node.sender.data
  nonce : op.nonce = node.nonce.toNat
  «to» : getBytes op.«to» = .ok node.«to».data
  value : op.value = node.value.toNat
  input : getBytes op.input = .ok node.input.data
  gasLimit : op.gasLimit = node.gasLimit.toNat
  maxFeePerGas : op.maxFeePerGas = node.maxFeePerGas.toNat
  maxPriorityFeePerGas : op.maxPriorityFeePerGas = node.maxPriorityFeePerGas.toNat

/-! ## Field values -/

theorem exists_bitVec_iff {n : Int} {bits : Nat} :
    (∃ x : BitVec bits, n = x.toNat) ↔ 0 ≤ n ∧ n < 2 ^ bits := by
  constructor
  · intro hvalue
    obtain ⟨x, rfl⟩ := hvalue
    exact ⟨Int.natCast_nonneg _, by exact_mod_cast x.isLt⟩
  · intro hrange
    obtain ⟨m, rfl⟩ := Int.eq_ofNat_of_zero_le hrange.1
    have hm : m < 2 ^ bits := by exact_mod_cast hrange.2
    exact ⟨BitVec.ofNat bits m, by rw [BitVec.toNat_ofNat, Nat.mod_eq_of_lt hm]⟩

theorem exists_fixedBytes_iff {text : Text} {n : Nat} :
    (∃ x : FixedBytes n, getBytes text = .ok x.data) ↔
      ∃ bytes, getBytes text = .ok bytes ∧ bytes.length = n := by
  constructor
  · intro hvalue
    obtain ⟨x, hx⟩ := hvalue
    exact ⟨x.data, hx, x.length_eq⟩
  · intro hbytes
    obtain ⟨bytes, hread, hlength⟩ := hbytes
    exact ⟨⟨bytes, hlength⟩, hread⟩

/-- No two operations of the node have the same values. -/
theorem Corresponds.unique {op : Operation} {a b : CosmosAuth.Operation} (ha : Corresponds op a)
    (hb : Corresponds op b) : a = b := by
  have hint : ∀ {bits : Nat} {n : Int} {x y : BitVec bits},
      n = x.toNat → n = y.toNat → x = y := by
    intro bits n x y hx hy
    exact BitVec.eq_of_toNat_eq (by exact_mod_cast hx.symm.trans hy)
  have hfixed : ∀ {k : Nat} {text : Text} {x y : FixedBytes k},
      getBytes text = .ok x.data → getBytes text = .ok y.data → x = y := by
    intro k text x y hx hy
    exact FixedBytes.ext (Except.ok.inj (hx.symm.trans hy))
  apply CosmosAuth.Operation.ext
  · exact hint ha.chainId hb.chainId
  · exact hfixed ha.genesisHash hb.genesisHash
  · exact hfixed ha.sender hb.sender
  · exact hint ha.nonce hb.nonce
  · exact hfixed ha.«to» hb.«to»
  · exact hint ha.value hb.value
  · exact Bytes.ext (Except.ok.inj (ha.input.symm.trans hb.input))
  · exact hint ha.gasLimit hb.gasLimit
  · exact hint ha.maxFeePerGas hb.maxFeePerGas
  · exact hint ha.maxPriorityFeePerGas hb.maxPriorityFeePerGas

theorem exists_corresponds_iff {op : Operation} :
    (∃ node, Corresponds op node) ↔ Representable op := by
  constructor
  · intro hnode
    obtain ⟨node, h⟩ := hnode
    exact {
      chainId := exists_bitVec_iff.mp ⟨_, h.chainId⟩
      genesisHash := exists_fixedBytes_iff.mp ⟨_, h.genesisHash⟩
      sender := exists_fixedBytes_iff.mp ⟨_, h.sender⟩
      nonce := exists_bitVec_iff.mp ⟨_, h.nonce⟩
      «to» := exists_fixedBytes_iff.mp ⟨_, h.«to»⟩
      value := exists_bitVec_iff.mp ⟨_, h.value⟩
      input := ⟨_, h.input⟩
      gasLimit := exists_bitVec_iff.mp ⟨_, h.gasLimit⟩
      maxFeePerGas := exists_bitVec_iff.mp ⟨_, h.maxFeePerGas⟩
      maxPriorityFeePerGas := exists_bitVec_iff.mp ⟨_, h.maxPriorityFeePerGas⟩ }
  · intro h
    obtain ⟨chainId, hchain⟩ := exists_bitVec_iff.mpr h.chainId
    obtain ⟨genesisHash, hgenesis⟩ := exists_fixedBytes_iff.mpr h.genesisHash
    obtain ⟨sender, hsender⟩ := exists_fixedBytes_iff.mpr h.sender
    obtain ⟨nonce, hnonce⟩ := exists_bitVec_iff.mpr h.nonce
    obtain ⟨«to», hto⟩ := exists_fixedBytes_iff.mpr h.«to»
    obtain ⟨value, hvalue⟩ := exists_bitVec_iff.mpr h.value
    obtain ⟨input, hinput⟩ := h.input
    obtain ⟨gasLimit, hgas⟩ := exists_bitVec_iff.mpr h.gasLimit
    obtain ⟨maxFeePerGas, hfee⟩ := exists_bitVec_iff.mpr h.maxFeePerGas
    obtain ⟨maxPriorityFeePerGas, htip⟩ := exists_bitVec_iff.mpr h.maxPriorityFeePerGas
    exact ⟨⟨chainId, genesisHash, sender, nonce, «to», value, input, gasLimit, maxFeePerGas,
      maxPriorityFeePerGas⟩,
      ⟨hchain, hgenesis, hsender, hnonce, hto, hvalue, hinput, hgas, hfee, htip⟩⟩

/-! ## Field checks -/

theorem integer_eq_ok {n : Int} {bits : Nat} {text : Text} (h : integer n bits = .ok text) :
    0 ≤ n ∧ n < 2 ^ bits := by
  unfold integer at h
  split at h
  next => simp at h
  next hrange => exact ⟨not_lt.mp (not_or.mp hrange).1, not_le.mp (not_or.mp hrange).2⟩

/-- Zero is the empty string, and any other value its numeral without leading zeros. -/
theorem integer_corresponds {bits : Nat} {n : Int} {x : BitVec bits} (hn : n = x.toNat)
    (hbits : bits = 8 * (bits / 8)) (hwidth : bits / 8 < 56) :
    ∃ text bytes, integer n bits = .ok text ∧ getBytes text = .ok bytes ∧
      Rlp.encodeBytes bytes = Rlp.encodeUint x := by
  have hmax := Rlp.toNat_lt hbits x
  have hrange : ¬ (n < 0 ∨ n ≥ 2 ^ bits) := by
    obtain ⟨hlow, hhigh⟩ := exists_bitVec_iff.mp ⟨x, hn⟩
    exact not_or.mpr ⟨not_lt.mpr hlow, not_le.mpr hhigh⟩
  have hencode := Rlp.encodeUint_eq hbits hwidth x
  subst hn
  unfold integer
  rw [if_neg hrange]
  by_cases hzero : x.toNat = 0
  · have hnil : trimmedBe (bits / 8) x.toNat = [] := by
      have hlength := @trimmedBe_length_le_of_lt (bits / 8) x.toNat 0 hmax (by rw [hzero]; decide)
      exact List.eq_nil_of_length_eq_zero (Nat.le_zero.mp hlength)
    refine ⟨"0x".toList, [], by simp [hzero], rfl, ?_⟩
    rw [hencode, hnil]
  · refine ⟨toBeHex x.toNat, trimmedBe (bits / 8) x.toNat, by simp [hzero], ?_, hencode.symm⟩
    exact getBytes_toBeHex (Nat.pos_of_ne_zero hzero) hmax

theorem fixed_eq_ok_iff {value text : Text} {length : Nat} :
    fixed value length = .ok text ↔
      (∃ bytes, getBytes value = .ok bytes ∧ bytes.length = length) ∧ value = text := by
  simp only [fixed, throw_eq_error, bind_eq_ok_iff, error_bind,
    ite_error_eq_ok_iff, pure_eq_ok, Except.ok.injEq, ne_eq, Decidable.not_not]
  constructor
  · intro h
    obtain ⟨bytes, hbytes, hlength, htext⟩ := h
    exact ⟨⟨bytes, hbytes, hlength⟩, htext⟩
  · intro h
    obtain ⟨⟨bytes, hbytes, hlength⟩, htext⟩ := h
    exact ⟨bytes, hbytes, hlength, htext⟩

/-- Both sides check the same limits. -/
theorem Corresponds.withinLimits_iff {op : Operation} {node : CosmosAuth.Operation}
    (h : Corresponds op node) :
    node.WithinLimits ↔
      node.input.data.length ≤ maxCalldata ∧
        ¬ (op.gasLimit < 21000 ∨ op.gasLimit > 30000000) ∧
        ¬ op.maxPriorityFeePerGas > op.maxFeePerGas ∧ op.nonce ≠ 2 ^ 64 - 1 := by
  have hgas : node.gasLimit ≤ maxGas ↔ op.gasLimit ≤ 30000000 := by
    rw [h.gasLimit, BitVec.le_def]
    exact Nat.cast_le.symm
  have hlow : 21000 ≤ node.gasLimit ↔ 21000 ≤ op.gasLimit := by
    rw [h.gasLimit, BitVec.le_def]
    exact Nat.cast_le.symm
  have hnonce : node.nonce = BitVec.allOnes 64 ↔ op.nonce = 2 ^ 64 - 1 := by
    rw [h.nonce, ← BitVec.toNat_inj, BitVec.toNat_allOnes]
    omega
  have hfee : node.maxPriorityFeePerGas ≤ node.maxFeePerGas ↔
      op.maxPriorityFeePerGas ≤ op.maxFeePerGas := by
    rw [h.maxPriorityFeePerGas, h.maxFeePerGas, BitVec.le_def, Nat.cast_le]
  constructor
  · intro hlimits
    refine ⟨hlimits.input_length_le, ?_, ?_, ?_⟩
    · exact not_or.mpr ⟨not_lt.mpr (hlow.mp hlimits.le_gasLimit),
        not_lt.mpr (hgas.mp hlimits.gasLimit_le)⟩
    · exact not_lt.mpr (hfee.mp hlimits.maxPriorityFee_le)
    · exact mt hnonce.mpr hlimits.nonce_ne_max
  · intro hchecks
    obtain ⟨hinput, hrange, hbounds, hmax⟩ := hchecks
    exact {
      input_length_le := hinput
      gasLimit_le := hgas.mpr (not_lt.mp (not_or.mp hrange).2)
      le_gasLimit := hlow.mpr (not_lt.mp (not_or.mp hrange).1)
      nonce_ne_max := mt hnonce.mp hmax
      maxPriorityFee_le := hfee.mpr (not_lt.mp hbounds) }

/-! ## The payload -/

theorem payload_sound {op : Operation} {text : Text} (hok : payload op = .ok text) :
    ∃ node, Corresponds op node ∧ node.WithinLimits := by
  -- a payload that is returned has passed every check on the way
  simp only [payload, throw_eq_error, bind_eq_ok_iff, error_bind,
    ite_error_eq_ok_iff] at hok
  obtain ⟨input, hinput, hsize, hgasRange, hbounds, hmax, _, hchain, _, hgenesis, _, hsender, _,
    hnonce, _, hto, _, hvalue, _, hgas, _, hfee, _, htip, _⟩ := hok
  have hinput_lt : input.length < 2 ^ 63 := (not_lt.mp hsize).trans_lt (by decide)
  obtain ⟨node, h⟩ := exists_corresponds_iff.mpr {
    chainId := integer_eq_ok hchain
    genesisHash := (fixed_eq_ok_iff.mp hgenesis).1
    sender := (fixed_eq_ok_iff.mp hsender).1
    nonce := integer_eq_ok hnonce
    «to» := (fixed_eq_ok_iff.mp hto).1
    value := integer_eq_ok hvalue
    input := ⟨⟨input, hinput_lt⟩, hinput⟩
    gasLimit := integer_eq_ok hgas
    maxFeePerGas := integer_eq_ok hfee
    maxPriorityFeePerGas := integer_eq_ok htip }
  have hsame : input = node.input.data := Except.ok.inj (hinput.symm.trans h.input)
  exact ⟨node, h, h.withinLimits_iff.mpr ⟨hsame ▸ not_lt.mp hsize, hgasRange, hbounds, hmax⟩⟩

/-- Within the limits the client writes the node's payload. -/
theorem Corresponds.payload_eq {op : Operation} {node : CosmosAuth.Operation}
    (h : Corresponds op node) (hlimits : node.WithinLimits) :
    payload op = .ok (hexlify node.payload) := by
  obtain ⟨hsize, hgasRange, hbounds, hmax⟩ := h.withinLimits_iff.mp hlimits
  obtain ⟨_, chain, hchain, hchainBytes, hchainItem⟩ :=
    integer_corresponds h.chainId (by decide) (by decide)
  obtain ⟨_, nonce, hnonce, hnonceBytes, hnonceItem⟩ :=
    integer_corresponds h.nonce (by decide) (by decide)
  obtain ⟨_, value, hvalue, hvalueBytes, hvalueItem⟩ :=
    integer_corresponds h.value (by decide) (by decide)
  obtain ⟨_, gas, hgas, hgasBytes, hgasItem⟩ :=
    integer_corresponds h.gasLimit (by decide) (by decide)
  obtain ⟨_, fee, hfee, hfeeBytes, hfeeItem⟩ :=
    integer_corresponds h.maxFeePerGas (by decide) (by decide)
  obtain ⟨_, tip, htip, htipBytes, htipItem⟩ :=
    integer_corresponds h.maxPriorityFeePerGas (by decide) (by decide)
  have hgenesis : fixed op.genesisHash 32 = .ok op.genesisHash :=
    fixed_eq_ok_iff.mpr ⟨⟨_, h.genesisHash, node.genesisHash.length_eq⟩, rfl⟩
  have hsender : fixed op.sender 20 = .ok op.sender :=
    fixed_eq_ok_iff.mpr ⟨⟨_, h.sender, node.sender.length_eq⟩, rfl⟩
  have hto : fixed op.«to» 20 = .ok op.«to» :=
    fixed_eq_ok_iff.mpr ⟨⟨_, h.«to», node.«to».length_eq⟩, rfl⟩
  have hprotocol : utf8 "reth-cosmos-adr036".toList = protocol := by decide
  have hversion : getBytes "0x01".toList = .ok [1] := rfl
  have hversionItem : Rlp.encodeBytes [1] = Rlp.encodeUint version := by decide
  simp only [payload, throw_eq_error, bind_eq_ok_iff, error_bind,
    ite_error_eq_ok_iff, encodeRlp_eq_ok_iff]
  refine ⟨_, h.input, not_lt.mpr hsize, hgasRange, hbounds, hmax, _, hchain, _, hgenesis, _,
    hsender, _, hnonce, _, hto, _, hvalue, _, hgas, _, hfee, _, htip,
    [protocol, [1], chain, node.genesisHash.data, node.sender.data, nonce, node.«to».data, value,
      node.input.data, gas, fee, tip], ?_, ?_⟩
  · -- every item of the list is a byte string
    simp only [List.mapM_cons, List.mapM_nil, getBytes_hexlify, hprotocol, hversion, hchainBytes,
      h.genesisHash, h.sender, hnonceBytes, h.«to», hvalueBytes, h.input, hgasBytes, hfeeBytes,
      htipBytes]
    rfl
  · -- and is encoded as the node encodes the field
    simp only [List.flatMap_cons, List.flatMap_nil, List.append_nil, hversionItem, hchainItem,
      hnonceItem, hvalueItem, hgasItem, hfeeItem, htipItem, CosmosAuth.Operation.payload,
      CosmosAuth.list, CosmosAuth.Operation.payloadItems, CosmosAuth.Operation.fields,
      Rlp.encodeFixed, List.append_assoc]

/-! ## The sign document -/

theorem toBech32_cosmos (sender : Address) :
    toBech32 "cosmos".toList sender.data = .ok (cosmosAddress sender) := by
  have hencode : Bech32.encode "cosmos".toList (Bech32.toBase32 sender.data) =
      some (cosmosAddress sender) := by simp [cosmosAddress]
  rw [toBech32, hencode]

theorem Corresponds.signDoc_eq {op : Operation} {node : CosmosAuth.Operation}
    (h : Corresponds op node) (hlimits : node.WithinLimits) :
    signDoc op =
      .ok (CosmosAuth.signDoc (Base64.encode node.payload) (cosmosAddress node.sender)) := by
  simp only [signDoc, h.payload_eq hlimits, h.sender, ok_bind, getBytes_hexlify,
    toBech32_cosmos]
  rfl

/-- The document is written with its keys in order. -/
theorem sortKeys_signDoc (data signer : List Char) :
    (CosmosAuth.signDoc data signer).sortKeys = CosmosAuth.signDoc data signer := by
  simp (disch := decide) only [CosmosAuth.signDoc, Json.sortKeys, Json.sortMembers, Json.sortItems,
    Json.insertMember_nil, Json.insertMember_of_le]

set_option maxRecDepth 4000 in
/-- Neither the fixed text nor the variable strings have a character that CosmJS escapes
and the node does not. -/
theorem serializeSignDoc_eq (node : CosmosAuth.Operation) :
    serializeSignDoc (CosmosAuth.signDoc (Base64.encode node.payload) (cosmosAddress node.sender)) =
      node.signBytes := by
  have hhead : escapeCharacters docHead = docHead := by decide
  have hmiddle : escapeCharacters docMiddle = docMiddle := by decide
  have htail : escapeCharacters docTail = docTail := by decide
  rw [serializeSignDoc, sortKeys_signDoc, node.signBytes_eq,
    render_signDoc (fun _ => Json.escapeControl_of_plain) base64_plain cosmosAddress_plain]
  simp only [escapeCharacters_append, hhead, hmiddle, htail,
    escapeCharacters_of_plain base64_plain, escapeCharacters_of_plain cosmosAddress_plain]

/-! ## The signed transaction -/

/-- The wallet has an account, and for it signs a document that serializes as the given
one does, with a key and a signature that are read as `key` and `signature`. -/
def Wallet.Signs (fromBase64 : Text → Except Error (List UInt8)) (wallet : Wallet)
    (doc : StdSignDoc) (key : FixedBytes 33) (signature : FixedBytes 64) : Prop :=
  ∃ account response, wallet.getAccounts.head? = some account ∧
    wallet.signAmino account doc = .ok response ∧
    serializeSignDoc response.signed = serializeSignDoc doc ∧
    fromBase64 response.signature.pubKeyValue = .ok key.data ∧
    fromBase64 response.signature.signature = .ok signature.data

/-- The text in front of the transaction is its type. -/
theorem wire_text (node : CosmosAuth.Operation) (key signature : List UInt8) :
    "0x7e".toList ++ (hexlify (CosmosAuth.list (wireFields node key signature))).drop 2 =
      hexlify (encodeWire node key signature) := by
  have htype : Hex.encode [txType] = ['7', 'e'] := by decide
  have hprefix : "0x7e".toList = ['0', 'x', '7', 'e'] := by decide
  have hwire : encodeWire node key signature =
      [txType] ++ CosmosAuth.list (wireFields node key signature) := by
    rw [encodeWire, List.singleton_append]
  rw [hwire, hexlify, hexlify, Hex.encode_append, htype, hprefix]
  simp only [List.drop_succ_cons, List.drop_zero, List.cons_append, List.nil_append]

theorem encodeRlp_wireFields (node : CosmosAuth.Operation) (key signature : List UInt8) :
    encodeRlp [hexlify node.payload, hexlify key, hexlify signature] =
      .ok (hexlify (CosmosAuth.list (wireFields node key signature))) := by
  rw [encodeRlp_eq_ok_iff]
  refine ⟨[node.payload, key, signature], ?_, ?_⟩
  · simp only [List.mapM_cons, List.mapM_nil, getBytes_hexlify]
    rfl
  · simp only [List.flatMap_cons, List.flatMap_nil, List.append_nil, CosmosAuth.list, wireFields,
      List.append_assoc]

section

variable [Crypto.Suite] (fromBase64 : Text → Except Error (List UInt8))

theorem Corresponds.sign_eq {op : Operation} {node : CosmosAuth.Operation}
    (h : Corresponds op node) (hlimits : node.WithinLimits) {wallet : Wallet} {doc : StdSignDoc}
    {key : FixedBytes 33} {signature : FixedBytes 64} (hdoc : signDoc op = .ok doc)
    (hsigns : wallet.Signs fromBase64 doc key signature) :
    ∃ signed, sign fromBase64 wallet op = .ok signed ∧
      signed.raw = hexlify (encodeWire node key.data signature.data) := by
  obtain ⟨account, response, haccount, hresponse, hsame, hkey, hsignature⟩ := hsigns
  simp only [sign, haccount, hdoc, hresponse, hsame, hkey, hsignature, h.payload_eq hlimits,
    encodeRlp_wireFields, wire_text, getBytes_hexlify, ok_bind, ne_eq,
    not_true_eq_false, if_false, pure_eq_ok]
  exact ⟨_, rfl, rfl⟩

/-- The client throws on exactly the operations the node has no value for or turns away.
On the others it writes the node's payload and sign document, and what it assembles from
a wallet's key and signature is the node's transaction, which the node reads back. -/
theorem client_and_node_implement_one_protocol (op : Operation) :
    (Representable op ↔ ∃! node, Corresponds op node) ∧
    ((∃ text, payload op = .ok text) ↔
      Representable op ∧ ∃ node, Corresponds op node ∧ node.validateLimits = .ok ()) ∧
    (∀ text node, payload op = .ok text → Corresponds op node →
      getBytes text = .ok node.payload ∧
      ∃ doc, signDoc op = .ok doc ∧ serializeSignDoc doc = node.signBytes ∧
        ∀ wallet key signature, wallet.Signs fromBase64 doc key signature →
          ∃ signed, sign fromBase64 wallet op = .ok signed ∧
            getBytes signed.raw = .ok (encodeWire node key.data signature.data) ∧
            decodeWire (encodeWire node key.data signature.data) =
              .ok (node, key, signature)) := by
  simp only [CosmosAuth.Operation.validateLimits_eq_ok_iff]
  refine ⟨?_, ?_, ?_⟩
  · rw [← exists_corresponds_iff]
    constructor
    · intro hnode
      obtain ⟨node, h⟩ := hnode
      refine ⟨node, h, ?_⟩
      intro other hother
      exact hother.unique h
    · exact ExistsUnique.exists
  · constructor
    · intro hreturns
      obtain ⟨text, hok⟩ := hreturns
      obtain ⟨node, h, hlimits⟩ := payload_sound hok
      exact ⟨exists_corresponds_iff.mp ⟨node, h⟩, node, h, hlimits⟩
    · intro hnode
      obtain ⟨_, node, h, hlimits⟩ := hnode
      exact ⟨_, h.payload_eq hlimits⟩
  · intro text node hok h
    obtain ⟨other, hother, hlimits⟩ := payload_sound hok
    -- only one node operation corresponds, and it is the one within the limits
    obtain rfl := hother.unique h
    refine ⟨?_, _, h.signDoc_eq hlimits, serializeSignDoc_eq other, ?_⟩
    · rw [← Except.ok.inj (hok.symm.trans (h.payload_eq hlimits)).symm, getBytes_hexlify]
    · intro wallet key signature hsigns
      obtain ⟨signed, hsigned, hraw⟩ := h.sign_eq fromBase64 hlimits (h.signDoc_eq hlimits) hsigns
      refine ⟨signed, hsigned, ?_, decodeWire_encodeWire hlimits key signature⟩
      rw [hraw, getBytes_hexlify]

end

/-! ## The fixture -/

/-- The fixture on the development chain. -/
def sampleOperation : Operation :=
  operation "0x09171e117af661185d9a4a4ff7cf83d29b4b99893bc95b204c0e6e0a6d6a5272".toList 0

/-- A wallet with the account of the fixture, which signs what it is given. -/
def sampleWallet : Wallet where
  getAccounts := ["cosmos1w508d6qejxtdg4y5r3zarvary0c5xw7k6ah60c".toList]
  signAmino _ doc := .ok {
    signed := doc
    signature := {
      pubKeyValue := Base64.encode Primitives.Sample.publicKey.data
      signature := Base64.encode Primitives.Sample.scalars.data } }

def sampleFromBase64 (text : Text) : Except Error (List UInt8) :=
  match Base64.decode text with
  | some bytes => .ok bytes
  | none => .error .invalidArgument

theorem sampleOperation_corresponds :
    Corresponds sampleOperation Primitives.Sample.operation where
  chainId := by decide
  genesisHash := by decide
  sender := by decide
  nonce := by decide
  «to» := by decide
  value := by decide
  input := by decide
  gasLimit := by decide
  maxFeePerGas := by decide
  maxPriorityFeePerGas := by decide

theorem sampleWallet_signs (doc : StdSignDoc) :
    sampleWallet.Signs sampleFromBase64 doc Primitives.Sample.publicKey
      Primitives.Sample.scalars := by
  refine ⟨_, _, rfl, rfl, rfl, ?_, ?_⟩
  · simp [sampleFromBase64, Base64.decode_encode]
  · simp [sampleFromBase64, Base64.decode_encode]

open Primitives.Sample in
theorem sample_is_signed :
    ∃ signed, sign sampleFromBase64 sampleWallet sampleOperation = .ok signed ∧
      getBytes signed.raw =
        .ok (encodeWire Primitives.Sample.operation publicKey.data scalars.data) ∧
      decodeWire (encodeWire Primitives.Sample.operation publicKey.data scalars.data) =
        .ok (Primitives.Sample.operation, publicKey, scalars) := by
  have hpayload := sampleOperation_corresponds.payload_eq operation_withinLimits
  have hagree := (client_and_node_implement_one_protocol sampleFromBase64 sampleOperation).2.2 _ _
    hpayload sampleOperation_corresponds
  obtain ⟨doc, hdoc⟩ := hagree.2
  exact hdoc.2.2 sampleWallet publicKey scalars (sampleWallet_signs doc)

end RethCosmos.Client
