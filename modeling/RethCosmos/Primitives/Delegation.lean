import RethCosmos.Primitives.Construction
import RethCosmos.Primitives.Sample

/-!
# Wrapped Ethereum transactions

Wrapping changes nothing about an Ethereum transaction: not its encodings, not its stored
form, not its hash and not its signer. The decoders differ from the upstream ones on the
Cosmos type byte only.
-/

namespace RethCosmos.Primitives

open Encoding Rust Upstream CosmosAuth
open Crypto (Suite)

/-- The typed decoder of the upstream envelope knows the standard types only. -/
def KnowsStandardTypes (T : Type) [Decodable2718 T] : Prop :=
  ∀ (value : UInt8) (buf rest : List UInt8) (t : T),
    TxType.tryFrom value = none → typedDecode value buf ≠ (.ok t, rest)

/-- What the upstream envelope promises. Its RLP is the network form, and its type byte
is the number of its type. -/
structure UpstreamEnvelope (T : Type) [LengthCheck] [Encodable2718 T] [Decodable2718 T]
    [RlpEncodable T] [RlpDecodable T] [Envelope T TxType] : Prop where
  encode_eq : ∀ t : T, RlpEncodable.encode t = networkEncode t
  length_eq : ∀ t : T, RlpEncodable.length t = networkLen t
  decode_eq : ∀ buf, RlpDecodable.decode (α := T) buf = networkDecode.mapError Eip2718Error.toRlp buf
  txType_eq : ∀ t : T, ∃ standard : TxType, Envelope.txType t = .ok standard ∧
    ty t = standard.toU8
  standard : KnowsStandardTypes T

variable {T : Type}

/-! ## Decoders -/

/-- The Cosmos type is not a standard one, so a standard decoder never reads it. -/
theorem KnowsStandardTypes.ne_cosmos [Decodable2718 T] (h : KnowsStandardTypes T) {value : UInt8}
    {buf rest : List UInt8} {t : T} (hread : typedDecode value buf = (.ok t, rest)) :
    value ≠ txType := by
  intro hcosmos
  rw [hcosmos] at hread
  exact h txType buf rest t (by decide) hread

section Decoders

variable [Suite] [Decodable2718 T]

theorem decode2718_ethereum {buf : List UInt8} (hbuf : buf.head? ≠ some txType) :
    decode2718 buf = decode2718.map (CosmosEnvelope.ethereum (T := T)) buf := by
  cases buf with
  | nil =>
      have hnil : ∀ (value : UInt8) (rest : List UInt8), [] = value :: rest → ¬ value ≤ 0x7f := by
        simp
      rw [decode2718_fallback hnil, Cursor.map, decode2718_fallback hnil]
      rfl
  | cons value rest =>
      have hvalue : value ≠ txType := by simpa using hbuf
      by_cases hsmall : value ≤ 0x7f
      · rw [decode2718_typed hsmall, Cursor.map, decode2718_typed hsmall,
          typedDecode_ethereum hvalue]
        rfl
      · have hlarge : ∀ (value' : UInt8) (rest' : List UInt8),
            value :: rest = value' :: rest' → ¬ value' ≤ 0x7f := by
          intro value' rest' heq
          rw [← (List.cons.inj heq).1]
          exact hsmall
        rw [decode2718_fallback hlarge, Cursor.map, decode2718_fallback hlarge]
        rfl

theorem decode2718_cosmos {buf rest : List UInt8} {tx : CosmosEnvelope T}
    (hbuf : buf.head? = some txType) (hread : decode2718 buf = (.ok tx, rest)) :
    ∃ signed, tx = .cosmos signed := by
  cases buf with
  | nil => simp at hbuf
  | cons value body =>
      obtain rfl : value = txType := by simpa using hbuf
      rw [decode2718_typed (by decide)] at hread
      obtain ⟨_, _, _, _, _, _, rfl⟩ := CosmosEnvelope.decodeWire_of_typedDecode hread
      exact ⟨_, rfl⟩

theorem KnowsStandardTypes.networkDecode_ethereum [LengthCheck] (h : KnowsStandardTypes T)
    {buf rest : List UInt8} {t : T} (hread : networkDecode buf = (.ok t, rest)) :
    networkDecode buf = (.ok (CosmosEnvelope.ethereum t), rest) := by
  apply networkDecode_of_wrapped ?_ ?_ hread
  · intro value buf rest t htyped
    rw [typedDecode_ethereum (h.ne_cosmos htyped), Cursor.map_eq_ok_iff]
    exact ⟨t, htyped, rfl⟩
  · intro buf rest t hfallback
    exact Cursor.map_eq_ok_iff.mpr ⟨t, hfallback, rfl⟩

end Decoders

/-! ## Encodings -/

theorem networkEncode_ethereum [Encodable2718 T] (t : T) :
    networkEncode (CosmosEnvelope.ethereum t) = networkEncode t := rfl

theorem networkLen_ethereum [Encodable2718 T] (t : T) :
    networkLen (CosmosEnvelope.ethereum t) = networkLen t := rfl

/-- The local tag has the identifiers of the standard one, so the generic code writes the
same head and body. -/
theorem UpstreamEnvelope.toCompact_ethereum [LengthCheck] [Encodable2718 T] [Decodable2718 T]
    [RlpEncodable T] [RlpDecodable T] [Envelope T TxType] [CompactLayout] [Transaction T]
    [ToTxCompact T] (hT : UpstreamEnvelope T) (t : T) :
    toCompact (.ethereum t) = CompactEnvelope.toCompact TxType t := by
  obtain ⟨standard, htype, hty⟩ := hT.txType_eq t
  have hlocal : TransactionEnvelope.txType (CosmosEnvelope.ethereum t) =
      .ok (CosmosTxType.ofTxType standard) := by
    have hread : CosmosTxType.tryFrom (ty (CosmosEnvelope.ethereum t)) =
        .ok (CosmosTxType.ofTxType standard) := by
      rw [← CosmosTxType.tryFrom_toU8, ← hty]
      rfl
    simp only [TransactionEnvelope.txType, hread, Outcome.expect]
  exact CompactEnvelope.toCompact_eq_of_wrapped htype hlocal
    (CosmosTxType.toCompact_ofTxType standard) rfl rfl rfl

/-- A stored Ethereum transaction is read through the local tag as the same one. -/
theorem fromCompact_ethereum [CompactLayout] [Suite] [FromTxCompact T TxType]
    {buf rest : List UInt8} {t : T}
    (hread : CompactEnvelope.fromCompact TxType buf = .ok (t, rest)) :
    fromCompact buf = .ok (CosmosEnvelope.ethereum t, rest) := by
  apply CompactEnvelope.fromCompact_of_wrapped CosmosTxType.fromCompact_of_txType ?_ hread
  intro buf signature rest standard t htx
  have hstandard : TxType.tryFrom (CosmosTxType.ofTxType standard).ty = some standard :=
    TxType.tryFrom_toU8 standard
  simp only [fromTxCompact, CosmosTxType.ofTxType_ne_cosmos, ne_eq, not_false_eq_true, if_true,
    hstandard, Outcome.expectSome, Outcome.ok_bind, Outcome.pure_eq_ok]
  simp only [htx, Outcome.ok_bind]

open Sample in
theorem legacy_upstream : UpstreamEnvelope Legacy where
  encode_eq _ := rfl
  length_eq _ := rfl
  decode_eq _ := rfl
  txType_eq _ := ⟨.legacy, rfl, rfl⟩
  standard _ _ _ _ _ hread := by simp [typedDecode] at hread

end RethCosmos.Primitives
