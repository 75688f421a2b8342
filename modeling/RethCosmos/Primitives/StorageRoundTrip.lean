import RethCosmos.Primitives.Construction
import RethCosmos.Primitives.Sample

/-!
# The database loses nothing

Storing a Cosmos transaction and reading it back gives the same transaction, bytes and
hash included, and nothing but stored forms of transactions can be read.
-/

namespace RethCosmos.Primitives

open Encoding Rust Upstream CosmosAuth
open Crypto (Suite)

theorem txType_cosmos {T : Type} [Typed2718 T] [Envelope T TxType] (tx : CosmosSigned) :
    Envelope.txType (CosmosEnvelope.cosmos (T := T) tx) = .ok CosmosTxType.COSMOS := by
  have hread : CosmosTxType.tryFrom txType = .ok CosmosTxType.COSMOS :=
    CosmosTxType.tryFrom_ty CosmosTxType.COSMOS
  simp only [Envelope.txType, TransactionEnvelope.txType, Typed2718.ty, hread, Outcome.expect]

section Stored

variable {T : Type} [Suite] [CompactLayout] [Transaction T] [Typed2718 T] [Envelope T TxType]
  [ToTxCompact T] [FromTxCompact T TxType]

/-- An envelope of a canonical transaction survives, compressed or not. -/
theorem fromCompact_toCompact_cosmos (hlayout : CompactLayout.Lossless) {tx : CosmosSigned}
    (h : tx.Canonical) :
    ∃ bytes rest, toCompact (CosmosEnvelope.cosmos (T := T) tx) = .ok (bytes, bytes.length) ∧
      fromCompact bytes = .ok (CosmosEnvelope.cosmos (T := T) tx, rest) := by
  refine ⟨_, _, ?_, CompactEnvelope.fromCompact_store hlayout CosmosTxType.COSMOS.toCompact_lt
    CosmosTxType.COSMOS.fromCompact_toCompact (fromTxCompact_toTxCompact h)⟩
  simp only [toCompact, CompactEnvelope.toCompact, txType_cosmos, Outcome.ok_bind,
    Outcome.pure_eq_ok]

end Stored

/-- Reading what was stored passes every check and gives the transaction back, and what
passes every check is what would be stored; the envelope around it loses nothing either. -/
theorem stored_transactions_are_lossless_and_canonical (T : Type) [Suite] [CompactLayout]
    [Transaction T] [Typed2718 T] [Envelope T TxType] [ToTxCompact T] [FromTxCompact T TxType]
    (hlayout : CompactLayout.Lossless) :
    (∀ (tx : CosmosSigned) (rest : List UInt8), Constructed tx →
      fromTxCompact (toTxCompact (CosmosEnvelope.cosmos (T := T) tx) ++ rest)
        CosmosTxType.COSMOS tx.signature = .ok (CosmosEnvelope.cosmos (T := T) tx, rest)) ∧
    (∀ (buf rest : List UInt8) (signature : Signature) (tx : CosmosEnvelope T),
      signature.v = false →
        fromTxCompact buf CosmosTxType.COSMOS signature = .ok (tx, rest) →
          ∃ stored, tx = .cosmos stored ∧ buf = toTxCompact tx ++ rest ∧
            stored.signature = signature) ∧
    (∀ tx : CosmosSigned, Constructed tx →
      ∃ bytes rest, toCompact (CosmosEnvelope.cosmos (T := T) tx) = .ok (bytes, bytes.length) ∧
        fromCompact bytes = .ok (CosmosEnvelope.cosmos (T := T) tx, rest)) := by
  refine ⟨?_, ?_, ?_⟩
  · intro tx rest hconstructed
    exact fromTxCompact_toTxCompact hconstructed.canonical rest
  · intro buf rest signature tx hparity hread
    obtain ⟨op, publicKey, _, _, rfl, hbuf⟩ := fromTxCompact_sound hread
    refine ⟨_, rfl, ?_, Signature.ofScalars_take_asBytes hparity⟩
    rw [toTxCompact_cosmos]
    exact hbuf
  · intro tx hconstructed
    exact fromCompact_toCompact_cosmos hlayout hconstructed.canonical

open Sample in
/-- The stored transaction of the existing databases is read back. -/
theorem stored_sample_is_read_back :
    ∃ bytes rest, toCompact (CosmosEnvelope.cosmos (T := Legacy) signed) =
        .ok (bytes, bytes.length) ∧
      fromCompact bytes = .ok (CosmosEnvelope.cosmos (T := Legacy) signed, rest) :=
  (stored_transactions_are_lossless_and_canonical Legacy layout_lossless).2.2 signed
    (Constructed.new new_signed)

end RethCosmos.Primitives
