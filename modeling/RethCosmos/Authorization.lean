import RethCosmos.Consensus
import RethCosmos.Evm

/-!
# No Cosmos transaction acts without authorization

Recovery, consensus, Engine payloads and the transaction environment each establish the
authorization of a Cosmos transaction on their own. All of them rest on one check, and
the signer they report is the account the operation names.
-/

namespace RethCosmos

open Encoding Rust Upstream CosmosAuth Primitives
open Crypto (Suite)

section Check

variable {T : Type} [Suite]

/-- The 64 signature bytes that a transaction gives to the check. -/
def signatureBytes (tx : CosmosSigned) : List UInt8 :=
  beBytes 32 tx.signature.r.toNat ++ beBytes 32 tx.signature.s.toNat

theorem verify_eq_ok_iff {tx : CosmosSigned} {a : Address} :
    tx.verify = .ok a ↔
      tx.operation.verify tx.publicKey (signatureBytes tx) genesisHash = .ok a := by
  rw [CosmosSigned.verify, Outcome.mapErr_eq_ok_iff, Signature.take_asBytes]
  rfl

/-- The ways a Cosmos transaction comes by a signer. -/
inductive RecoveredAs [Decodable2718 T] [SignerRecoverable T] (tx : CosmosSigned) (a : Address) :
    Prop
  | signer (h : recoverSigner (CosmosEnvelope.cosmos (T := T) tx) = .ok a)
  | unchecked (h : recoverSignerUnchecked (CosmosEnvelope.cosmos (T := T) tx) = .ok a)
  | withBuf (buf : List UInt8)
      (h : (recoverWithBuf (CosmosEnvelope.cosmos (T := T) tx) buf).1 = .ok a)
  | uncheckedWithBuf (buf : List UInt8)
      (h : (recoverUncheckedWithBuf (CosmosEnvelope.cosmos (T := T) tx) buf).1 = .ok a)
  | payload (payload : ExecutionData)
      (h : .ok ⟨CosmosEnvelope.cosmos (T := T) tx, a⟩ ∈ payloadItems payload)

theorem verify_eq_ok_iff_authorized {tx : CosmosSigned} {a : Address} :
    tx.verify = .ok a ↔
      tx.operation.Authorized tx.publicKey (signatureBytes tx) genesisHash ∧
        a = tx.operation.sender := by
  rw [verify_eq_ok_iff, Operation.verify_eq_ok_iff]

variable [Decodable2718 T] [SignerRecoverable T]

/-- Every way ends in the one check. -/
theorem RecoveredAs.verify {tx : CosmosSigned} {a : Address} (h : RecoveredAs (T := T) tx a) :
    tx.verify = .ok a := by
  cases h with
  | signer h => exact h
  | unchecked h => exact h
  | withBuf buf h => exact h
  | uncheckedWithBuf buf h => exact h
  | payload payload h => exact recoverSigner_of_payloadItem h

end Check

/-- A Cosmos transaction has no signer but the authorized account: not by any recovery
method, not in a block that passes validation and not in an Engine payload. So the
transaction environment is built for that account, and its assertion never fires. -/
theorem cosmos_transactions_are_authorized_everywhere (T H R E ε : Type) [Suite]
    [Decodable2718 T] [SignerRecoverable T] [Inhabited E] [FromRecoveredTx T E]
    [FromTxWithEncoded T E] :
    (∀ tx : CosmosSigned,
      recoverSigner (CosmosEnvelope.cosmos (T := T) tx) = tx.verify ∧
      recoverSignerUnchecked (CosmosEnvelope.cosmos (T := T) tx) = tx.verify ∧
      (∀ buf, (recoverWithBuf (CosmosEnvelope.cosmos (T := T) tx) buf).1 = tx.verify) ∧
      (∀ buf, (recoverUncheckedWithBuf (CosmosEnvelope.cosmos (T := T) tx) buf).1 =
        tx.verify) ∧
      ∀ a, tx.verify = .ok a →
        tx.operation.verify tx.publicKey (signatureBytes tx) genesisHash = .ok a ∧
        a = tx.operation.sender ∧ a = keyAddress tx.publicKey) ∧
    (∀ (consensus : CosmosConsensus T H R ε) (block : Block T H) (root : Option R),
      consensus.validateBlockPreExecution block = .ok ⟨⟩ ∨
          consensus.validateBlockPreExecutionWithTxRoot block root = .ok ⟨⟩ →
        consensus.inner.genesisHash = genesisHash ∧
        ∀ tx, .cosmos tx ∈ block.transactions → ∃ a,
          tx.operation.verify tx.publicKey (signatureBytes tx) genesisHash = .ok a) ∧
    (∀ (payload : ExecutionData) (tx : CosmosSigned) (a : Address),
      .ok ⟨CosmosEnvelope.cosmos (T := T) tx, a⟩ ∈ payloadItems payload →
        tx.operation.verify tx.publicKey (signatureBytes tx) genesisHash = .ok a ∧
        a = tx.operation.sender ∧ a = keyAddress tx.publicKey) ∧
    (∀ (tx : CosmosSigned) (a : Address), RecoveredAs (T := T) tx a →
      ∃ env : TxEnv E, env.caller = tx.operation.sender ∧
        fromRecoveredTx (CosmosEnvelope.cosmos (T := T) tx) a = .ok env ∧
        ∀ encoded, fromEncodedTx (CosmosEnvelope.cosmos (T := T) tx) a encoded = .ok env) := by
  have hsigner : ∀ {tx : CosmosSigned} {a : Address}, tx.verify = .ok a →
      tx.operation.verify tx.publicKey (signatureBytes tx) genesisHash = .ok a ∧
        a = tx.operation.sender ∧ a = keyAddress tx.publicKey := by
    intro tx a hverify
    obtain ⟨hauthorized, ha⟩ := verify_eq_ok_iff_authorized.mp hverify
    exact ⟨verify_eq_ok_iff.mp hverify, ha, ha.trans hauthorized.sender⟩
  refine ⟨?_, ?_, ?_, ?_⟩
  · intro tx
    exact ⟨rfl, rfl, fun _ => rfl, fun _ => rfl, fun _ hverify => hsigner hverify⟩
  · intro consensus block root hvalid
    have hverified : consensus.verifyAuthorizations block = .ok ⟨⟩ := by
      rcases hvalid with hvalid | hvalid
      · exact consensus.verifyAuthorizations_of_validate hvalid
      · exact consensus.verifyAuthorizations_of_validate hvalid
    obtain ⟨hgenesis, htxs⟩ := consensus.verifyAuthorizations_eq_ok_iff.mp hverified
    refine ⟨hgenesis, ?_⟩
    intro tx hmem
    obtain ⟨a, hverify⟩ := htxs tx hmem
    exact ⟨a, verify_eq_ok_iff.mp hverify⟩
  · intro payload tx a hmem
    exact hsigner (RecoveredAs.payload payload hmem).verify
  · intro tx a hrecovered
    have ha := (hsigner hrecovered.verify).2.1
    exact ⟨_, ha, fromRecoveredTx_cosmos ha, fun _ => fromRecoveredTx_cosmos ha⟩

end RethCosmos
