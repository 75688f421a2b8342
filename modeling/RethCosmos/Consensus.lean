import RethCosmos.Primitives.Envelope

/-!
# Consensus

Cosmos authorization is a consensus rule, independent of pool admission: it is checked
before the upstream rules, for every transaction of a block.
-/

namespace RethCosmos

open Rust Upstream CosmosAuth Primitives
open Crypto (Suite)

/-- A block: its transactions, and everything else that the upstream rules read. -/
structure Block (T H : Type) where
  header : H
  transactions : List (CosmosEnvelope T)

/-- The error of a failed recovery, among the errors `ε` of the upstream rules. -/
inductive ConsensusError (ε : Type)
  | transactionSignerRecoveryError
  | upstream (e : ε)

/-- The upstream rules over a chain specification; `R` is a transaction root. -/
structure EthBeaconConsensus (T H R ε : Type) where
  genesisHash : B256
  validateBlockPreExecutionWithTxRoot :
    Block T H → Option R → Outcome (ConsensusError ε) PUnit

structure CosmosConsensus (T H R ε : Type) where
  inner : EthBeaconConsensus T H R ε

namespace CosmosConsensus

variable {T H R ε : Type} [Suite] (consensus : CosmosConsensus T H R ε)

/-- One turn of the loop over the transactions of a block. -/
def verifyAuthorization : CosmosEnvelope T → Outcome (ConsensusError ε) PUnit
  | .cosmos tx => do
      let _ ← tx.verify.mapErr fun _ => .transactionSignerRecoveryError
      return ⟨⟩
  | .ethereum _ => return ⟨⟩

def verifyAuthorizations (block : Block T H) : Outcome (ConsensusError ε) PUnit := do
  if consensus.inner.genesisHash ≠ genesisHash then
    Outcome.err .transactionSignerRecoveryError
  block.transactions.forM verifyAuthorization

def validateBlockPreExecutionWithTxRoot (block : Block T H) (root : Option R) :
    Outcome (ConsensusError ε) PUnit := do
  consensus.verifyAuthorizations block
  consensus.inner.validateBlockPreExecutionWithTxRoot block root

def validateBlockPreExecution (block : Block T H) : Outcome (ConsensusError ε) PUnit :=
  consensus.validateBlockPreExecutionWithTxRoot block none

theorem verifyAuthorization_cosmos_eq_ok_iff {tx : CosmosSigned} {u : PUnit} :
    verifyAuthorization (.cosmos tx : CosmosEnvelope T) =
      (.ok u : Outcome (ConsensusError ε) PUnit) ↔
      ∃ sender, tx.verify = .ok sender := by
  simp only [verifyAuthorization, Outcome.bind_eq_ok_iff, Outcome.mapErr_eq_ok_iff,
    Outcome.pure_eq_ok, and_true]

/-- Success of the whole loop is success of every turn. -/
theorem verifyAuthorizations_eq_ok_iff {block : Block T H} {u : PUnit} :
    consensus.verifyAuthorizations block = .ok u ↔
      consensus.inner.genesisHash = genesisHash ∧
        ∀ tx, .cosmos tx ∈ block.transactions → ∃ sender, tx.verify = .ok sender := by
  by_cases hgenesis : consensus.inner.genesisHash = genesisHash
  · simp only [verifyAuthorizations, hgenesis, ne_eq, not_true_eq_false, if_false,
      Outcome.forM_eq_ok_iff, true_and]
    constructor
    · intro h tx hmem
      exact verifyAuthorization_cosmos_eq_ok_iff.mp (h (.cosmos tx) hmem)
    · intro h item hmem
      cases item with
      | ethereum tx => rfl
      | cosmos tx => exact verifyAuthorization_cosmos_eq_ok_iff.mpr (h tx hmem)
  · simp [verifyAuthorizations, hgenesis]

theorem verifyAuthorizations_of_validate {block : Block T H} {root : Option R}
    (hvalid : consensus.validateBlockPreExecutionWithTxRoot block root = .ok ⟨⟩) :
    consensus.verifyAuthorizations block = .ok ⟨⟩ := by
  rw [validateBlockPreExecutionWithTxRoot, Outcome.bind_eq_ok_iff] at hvalid
  obtain ⟨_, hverified, _⟩ := hvalid
  exact hverified

end CosmosConsensus

end RethCosmos
