import RethCosmos.Primitives.Delegation

/-!
# Transactions of a block body

Items of a block body stand back to back, and the typed decoder of each is handed all
that follows. A list is read back because every item stops at its own end.
-/

namespace RethCosmos.Primitives

open Encoding Rust Upstream CosmosAuth
open Crypto (Suite)

variable {T : Type}

/-- The law of the network form: an item is read from the front of a buffer, and its
length is the reported one. -/
structure NetworkForm (T : Type) [LengthCheck] [Encodable2718 T] [Decodable2718 T] : Prop where
  decode_encode : ∀ (t : T) (rest : List UInt8),
    networkDecode (networkEncode t ++ rest) = (.ok t, rest)
  length_eq : ∀ t : T, networkLen t = (networkEncode t).length

theorem networkEncode_cosmos [Encodable2718 T] (tx : CosmosSigned) :
    networkEncode (CosmosEnvelope.cosmos (T := T) tx) =
      Rlp.Header.encode ⟨false, tx.raw.length⟩ ++ tx.raw := rfl

theorem networkLen_cosmos [Encodable2718 T] (tx : CosmosSigned) :
    networkLen (CosmosEnvelope.cosmos (T := T) tx) =
      (networkEncode (CosmosEnvelope.cosmos (T := T) tx)).length := by
  rw [networkEncode_cosmos, List.length_append, Rlp.Header.encode_length, Nat.add_comm]
  rfl

/-- The wire bytes of a transaction are a type byte and a list, and no more than a raw
transaction may have. -/
theorem CosmosSigned.Canonical.raw_header [Suite] {tx : CosmosSigned} (h : tx.Canonical)
    (rest : List UInt8) :
    Rlp.Header.decode (Rlp.Header.encode ⟨false, tx.raw.length⟩ ++ (tx.raw ++ rest)) =
      .ok (⟨false, tx.raw.length⟩, tx.raw ++ rest) := by
  have hsize : tx.raw.length ≤ maxRawTx := by
    rw [h.raw_eq]
    exact h.limits.encodeWire_length_le h.key (scalars tx)
  have hmax : maxRawTx < 65536 := by decide
  apply Rlp.Header.decode_encode ((hsize.trans_lt hmax).trans (by norm_num)) (by simp)
  intro hredundant
  -- one byte would leave no room for the list behind the type byte
  have hone := hredundant.1
  have hbody := Rlp.Header.encode_ne_nil
    ⟨true, (wireFields tx.operation tx.publicKey (tx.signature.asBytes.take 64)).length⟩
  have hlist := List.length_pos_iff.mpr hbody
  simp only [h.raw_eq, encodeWire, list, Rlp.encodeList, List.length_cons, List.length_append,
    Rlp.Header.mk.injEq, true_and] at hone
  omega

/-- The item of a Cosmos transaction ends where its wire bytes end. -/
theorem networkDecode_cosmos [Suite] [LengthCheck] [Encodable2718 T] [Decodable2718 T]
    {tx : CosmosSigned} (h : tx.Canonical) (rest : List UInt8) :
    networkDecode (networkEncode (CosmosEnvelope.cosmos (T := T) tx) ++ rest) =
      (.ok (CosmosEnvelope.cosmos (T := T) tx), rest) := by
  obtain ⟨body, hraw, htyped⟩ := CosmosEnvelope.typedDecode_raw (T := T) h rest
  have hheader := h.raw_header rest
  rw [networkEncode_cosmos, List.append_assoc]
  rw [hraw, List.cons_append] at hheader ⊢
  simp only [networkDecode, Cursor.remaining_bind, hheader, Except.mapError, Cursor.lift_ok_bind,
    Bool.false_eq_true, if_false, Cursor.assign_bind]
  rw [Cursor.bind_eq_ok_iff]
  -- the typed decoder stops where the announced length ends
  have hconsumed : (txType :: (body ++ rest)).length - rest.length = (txType :: body).length := by
    simp only [List.length_cons, List.length_append]
    omega
  refine ⟨_, rest, htyped, ?_⟩
  simp only [Cursor.remaining_bind, hconsumed, ne_eq, not_true_eq_false, false_and, if_false,
    Cursor.pure_apply]

/-! ## Lists of transactions -/

section Body

variable [LengthCheck] [Encodable2718 T] [Decodable2718 T]

/-- Transactions the program can hold. -/
def WellConstructed [Suite] : CosmosEnvelope T → Prop
  | .ethereum _ => True
  | .cosmos tx => Constructed tx

theorem length_eq_encode (hT : NetworkForm T) (tx : CosmosEnvelope T) :
    RlpEncodable.length tx = (RlpEncodable.encode tx).length := by
  cases tx with
  | ethereum t => exact hT.length_eq t
  | cosmos tx => exact networkLen_cosmos tx

/-- One item is read from the front of a body, whatever items follow. -/
theorem decode_roundTrips [Suite] (hstandard : KnowsStandardTypes T) (hT : NetworkForm T) :
    RoundTrips WellConstructed (RlpEncodable.encode (α := CosmosEnvelope T))
      RlpDecodable.decode.toDecoder := by
  intro tx rest hconstructed
  rw [Cursor.toDecoder_eq_ok_iff]
  apply Cursor.mapError_eq_ok_iff.mpr
  cases tx with
  | ethereum t => exact hstandard.networkDecode_ethereum (hT.decode_encode t rest)
  | cosmos tx => exact networkDecode_cosmos (Constructed.canonical hconstructed) rest

theorem encode_ne_nil [Suite] (hstandard : KnowsStandardTypes T) (hT : NetworkForm T)
    (tx : CosmosEnvelope T) (hconstructed : WellConstructed tx) : RlpEncodable.encode tx ≠ [] := by
  intro hnil
  have hread := decode_roundTrips hstandard hT tx [] hconstructed
  rw [hnil, List.append_nil, Cursor.toDecoder_eq_ok_iff] at hread
  have hempty := Cursor.mapError_eq_ok_iff.mp hread
  simp [networkDecode, Rlp.Header.decode, Except.mapError] at hempty

end Body

/-- The transaction list of a block body is read back from its encoding, and the reported
lengths are those of the bytes. -/
theorem block_body_survives_network_encoding (T : Type) [Suite] [LengthCheck]
    [Encodable2718 T] [Decodable2718 T] (hstandard : KnowsStandardTypes T) (hT : NetworkForm T)
    (txs : List (CosmosEnvelope T)) (htxs : ∀ tx, .cosmos tx ∈ txs → Constructed tx) :
    (∀ fuel, txs.length ≤ fuel →
      decodeMany RlpDecodable.decode.toDecoder fuel (txs.flatMap RlpEncodable.encode) =
        some (.ok txs)) ∧
    (∀ tx ∈ txs, RlpEncodable.length tx = (RlpEncodable.encode tx).length) ∧
    (txs.map RlpEncodable.length).sum = (txs.flatMap RlpEncodable.encode).length := by
  have hconstructed : ∀ tx ∈ txs, WellConstructed tx := by
    intro tx hmem
    cases tx with
    | ethereum t => trivial
    | cosmos tx => exact htxs tx hmem
  refine ⟨?_, ?_, ?_⟩
  · intro fuel hfuel
    exact decodeMany_flatMap (decode_roundTrips hstandard hT) (encode_ne_nil hstandard hT) txs
      hconstructed hfuel
  · intro tx _
    exact length_eq_encode hT tx
  · rw [List.length_flatMap]
    exact congrArg List.sum (List.map_congr_left fun tx _ => length_eq_encode hT tx)

open Sample in
theorem legacy_networkForm : NetworkForm Legacy where
  decode_encode := by
    intro t rest
    cases t
    -- the sample is one list, which its own decoder recognizes in front of anything
    have hlist : Legacy.raw = Rlp.encodeList (Legacy.raw.drop 2) := by decide
    have hheader := @Rlp.decode_encodeList (Legacy.raw.drop 2) (by decide) rest
    rw [← hlist] at hheader
    have hpre : Legacy.raw.isPrefixOf (Legacy.raw ++ rest) = true :=
      List.isPrefixOf_iff_prefix.mpr (List.prefix_append _ _)
    have hdrop : (Legacy.raw ++ rest).drop 110 = rest := List.drop_left' (by decide)
    have hraw : networkEncode Legacy.transfer = Legacy.raw := rfl
    have hfallback : fallbackDecode (Legacy.raw ++ rest) = (.ok Legacy.transfer, rest) := by
      simp only [fallbackDecode, hpre, hdrop, if_true]
    simp only [hraw, networkDecode, Cursor.remaining_bind, hheader, Except.mapError,
      Cursor.lift_ok_bind]
    rw [if_pos trivial, hfallback]
  length_eq := by
    intro t
    cases t
    decide

open Sample in
/-- A block of one transaction of each kind, and the Ethereum one once more. -/
theorem sample_block_survives_network_encoding :
    let txs : List (CosmosEnvelope Legacy) := [.ethereum .transfer, .cosmos signed,
      .ethereum .transfer]
    decodeMany RlpDecodable.decode.toDecoder 3 (txs.flatMap RlpEncodable.encode) =
      some (.ok txs) := by
  intro txs
  have htxs : ∀ tx, .cosmos tx ∈ txs → Constructed tx := by
    intro tx hmem
    obtain rfl : tx = signed := by simpa [txs] using hmem
    exact Constructed.new new_signed
  have hbody := block_body_survives_network_encoding Legacy legacy_upstream.standard
    legacy_networkForm txs htxs
  exact hbody.1 3 le_rfl

end RethCosmos.Primitives
