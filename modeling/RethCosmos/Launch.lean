import RethCosmos.Payload.Engine

/-!
# The chain of a node

A node starts on one chain only, and on any other its consensus would turn every block away.
On its chain, consensus leaves a block to the upstream rules exactly if the Engine yields
every Cosmos transaction of it.
-/

namespace RethCosmos

open Encoding Rust Upstream CosmosAuth Primitives Payload
open Crypto (Suite)

variable {T H V R ε : Type}

/-! ## The start of a node -/

/-- What the start of a node looks at. -/
structure NodeConfig (T H R ε : Type) where
  chain : EthBeaconConsensus T H R ε
  jitEnabled : Bool

/-- `build_evm`, up to the configuration it makes. -/
def buildEvm (config : NodeConfig T H R ε) : Except String PUnit :=
  if config.jitEnabled then .error "JIT is not configured for this experiment" else .ok ⟨⟩

/-- `main`, up to the consensus of the node. -/
def launch (config : NodeConfig T H R ε) : Except String (CosmosConsensus T H R ε) := do
  if config.chain.genesisHash ≠ genesisHash then
    throw "use the experiment's genesis.json; other chains are unsupported"
  buildEvm config
  return ⟨config.chain⟩

theorem launch_eq_ok_iff {config : NodeConfig T H R ε} {consensus : CosmosConsensus T H R ε} :
    launch config = .ok consensus ↔
      (config.chain.genesisHash = genesisHash ∧ config.jitEnabled = false) ∧
        consensus = ⟨config.chain⟩ := by
  by_cases hgenesis : config.chain.genesisHash = genesisHash
  · cases hjit : config.jitEnabled with
    | false => simp [launch, buildEvm, hgenesis, hjit, eq_comm]
    | true => simp [launch, buildEvm, hgenesis, hjit]
  · simp [launch, hgenesis]

/-! ## Authorizations -/

section Authorizations

variable [Suite]

/-- The signature of a transaction authorizes its operation. -/
def IsAuthorized (tx : CosmosSigned) : Prop :=
  tx.operation.Authorized tx.publicKey (signatureBytes tx) genesisHash

theorem verify_of_authorized {tx : CosmosSigned} (h : IsAuthorized tx) :
    tx.verify = .ok tx.operation.sender :=
  verify_eq_ok_iff_authorized.mpr ⟨h, rfl⟩

/-- Nothing panics, so what is not authorized is an error. -/
theorem verify_of_not_authorized {tx : CosmosSigned} (h : ¬ IsAuthorized tx) :
    tx.verify = .err .mk := by
  -- success would be an authorization, and nothing panics
  have hok : ∀ a, tx.operation.verify tx.publicKey (tx.signature.asBytes.take 64) genesisHash ≠
      .ok a := by
    intro a hok
    have hverify : tx.verify = .ok a := by
      rw [CosmosSigned.verify, hok]
      rfl
    exact h (verify_eq_ok_iff_authorized.mp hverify).1
  have hpanic := tx.operation.verify_ne_panic tx.publicKey (tx.signature.asBytes.take 64)
    genesisHash
  rw [CosmosSigned.verify]
  cases hresult : tx.operation.verify tx.publicKey (tx.signature.asBytes.take 64) genesisHash with
  | ok a => exact absurd hresult (hok a)
  | err e => rfl
  | panic message => exact absurd hresult (hpanic message)

end Authorizations

/-! ## Verdicts -/

namespace CosmosConsensus

variable [Suite] {consensus : CosmosConsensus T H R ε} {block : Block T H} {root : Option R}

theorem verifyAuthorization_of_authorized {item : CosmosEnvelope T}
    (hitem : ∀ tx, item = .cosmos tx → IsAuthorized tx) :
    verifyAuthorization item = (.ok ⟨⟩ : Outcome (ConsensusError ε) PUnit) := by
  cases item with
  | ethereum t => rfl
  | cosmos tx =>
      exact verifyAuthorization_cosmos_eq_ok_iff.mpr ⟨_, verify_of_authorized (hitem tx rfl)⟩

theorem verifyAuthorization_of_not_authorized {tx : CosmosSigned} (h : ¬ IsAuthorized tx) :
    verifyAuthorization (.cosmos tx : CosmosEnvelope T) =
      (.err .transactionSignerRecoveryError : Outcome (ConsensusError ε) PUnit) := by
  simp only [verifyAuthorization, verify_of_not_authorized h, Outcome.mapErr, Outcome.err_bind]

theorem validate_of_authorized (hgenesis : consensus.inner.genesisHash = genesisHash)
    (hall : ∀ tx, .cosmos tx ∈ block.transactions → IsAuthorized tx) :
    consensus.validateBlockPreExecutionWithTxRoot block root =
      consensus.inner.validateBlockPreExecutionWithTxRoot block root := by
  have hverified : consensus.verifyAuthorizations block = .ok ⟨⟩ :=
    consensus.verifyAuthorizations_eq_ok_iff.mpr
      ⟨hgenesis, fun tx hmem => ⟨_, verify_of_authorized (hall tx hmem)⟩⟩
  rw [validateBlockPreExecutionWithTxRoot, hverified, Outcome.ok_bind]

/-- One transaction is enough, wherever it is in the block and whatever the others are. -/
theorem validate_of_not_authorized {tx : CosmosSigned} (hmem : .cosmos tx ∈ block.transactions)
    (h : ¬ IsAuthorized tx) :
    consensus.validateBlockPreExecutionWithTxRoot block root =
      .err .transactionSignerRecoveryError := by
  -- every turn ends in one of two ways, so the loop ends at the first that is an error
  have hturns : ∀ item ∈ block.transactions,
      verifyAuthorization item = (.ok ⟨⟩ : Outcome (ConsensusError ε) PUnit) ∨
        verifyAuthorization item =
          (.err .transactionSignerRecoveryError : Outcome (ConsensusError ε) PUnit) := by
    intro item _
    by_cases hitem : ∀ tx, item = .cosmos tx → IsAuthorized tx
    · exact Or.inl (verifyAuthorization_of_authorized hitem)
    · simp only [not_forall] at hitem
      obtain ⟨tx, rfl, hnot⟩ := hitem
      exact Or.inr (verifyAuthorization_of_not_authorized hnot)
  have hloop := Outcome.forM_eq_err hturns hmem (verifyAuthorization_of_not_authorized h)
  have hverified : consensus.verifyAuthorizations block =
      .err .transactionSignerRecoveryError := by
    by_cases hgenesis : consensus.inner.genesisHash = genesisHash
    · simp only [verifyAuthorizations, hgenesis, ne_eq, not_true_eq_false, if_false]
      exact hloop
    · simp [verifyAuthorizations, hgenesis]
  rw [validateBlockPreExecutionWithTxRoot, hverified, Outcome.err_bind]

theorem validate_of_other_chain (hgenesis : consensus.inner.genesisHash ≠ genesisHash) :
    consensus.validateBlockPreExecutionWithTxRoot block root =
      .err .transactionSignerRecoveryError := by
  simp [validateBlockPreExecutionWithTxRoot, verifyAuthorizations, hgenesis]

end CosmosConsensus

section Items

variable [Suite] [SignerRecoverable T]

theorem recoverItem_of_authorized {tx : CosmosSigned} (h : IsAuthorized tx) :
    recoverItem (CosmosEnvelope.cosmos (T := T) tx) = .ok ⟨.cosmos tx, tx.operation.sender⟩ :=
  recoverItem_eq_ok (verify_of_authorized h)

theorem recoverItem_of_not_authorized {tx : CosmosSigned} (h : ¬ IsAuthorized tx) :
    recoverItem (CosmosEnvelope.cosmos (T := T) tx) = .err (.recovery .mk) := by
  have hrecover : recoverSigner (CosmosEnvelope.cosmos (T := T) tx) = .err .mk :=
    verify_of_not_authorized h
  rw [recoverItem, hrecover]
  rfl

end Items

/-- A node that does not start because of its chain could not accept any block of it. A node that
starts leaves a block to the upstream rules, with whatever transaction root, if all its Cosmos
transactions are authorized, and turns it away without asking them if one is not. The Engine
comes to the same verdict, transaction by transaction: it yields those that are authorized
for the account of their operation, and a recovery error for each of the others. -/
theorem consensus_and_engine_judge_alike (T H V R ε : Type) [Suite] [Encodable2718 T]
    [Decodable2718 T] [SignerRecoverable T] [TransactionAccessors T] [EngineHeader H]
    [ExecutionPayload V] [FromBlockUncheckedWithExtras V (H × BlockBody (CosmosEnvelope T) H)]
    (hexact : ExactForm T) (hstandard : KnowsStandardTypes T)
    (hdoc : FromBlockUncheckedWithExtras.Documented V (CosmosEnvelope T) H)
    (config : NodeConfig T H R ε) (block : RecoveredBlock (CosmosEnvelope T) H)
    (hconstructed : ∀ tx, .cosmos tx ∈ block.body.transactions → Constructed tx) :
    (∀ e, launch config = .error e → config.jitEnabled = false → ∀ root,
      (⟨config.chain⟩ : CosmosConsensus T H R ε).validateBlockPreExecutionWithTxRoot
          ⟨block.header, block.body.transactions⟩ root =
        .err .transactionSignerRecoveryError) ∧
    ∀ consensus, launch config = .ok consensus →
      (∀ root, (∀ tx, .cosmos tx ∈ block.body.transactions → IsAuthorized tx) →
        consensus.validateBlockPreExecutionWithTxRoot
            ⟨block.header, block.body.transactions⟩ root =
          config.chain.validateBlockPreExecutionWithTxRoot
            ⟨block.header, block.body.transactions⟩ root) ∧
      (∀ root tx, .cosmos tx ∈ block.body.transactions → ¬ IsAuthorized tx →
        consensus.validateBlockPreExecutionWithTxRoot
            ⟨block.header, block.body.transactions⟩ root =
          .err .transactionSignerRecoveryError) ∧
      ∀ data : EngineData V,
        ((∃ bal, data = blockToPayload block bal) ∨
          ∃ payload : CosmosBuiltPayload T H, payload.block = block ∧
            data = payload.intoExecutionData) →
        ∀ (i : Nat) (tx : CosmosSigned), block.body.transactions[i]? = some (.cosmos tx) →
          let items := payloadItems (T := T) data.executionData
          (IsAuthorized tx → items[i]? = some (.ok ⟨.cosmos tx, tx.operation.sender⟩)) ∧
          (¬ IsAuthorized tx → items[i]? = some (.err (.recovery .mk))) := by
  constructor
  · intro e hfails hjit root
    apply CosmosConsensus.validate_of_other_chain
    intro hgenesis
    have hstarts : launch config = .ok ⟨config.chain⟩ :=
      launch_eq_ok_iff.mpr ⟨⟨hgenesis, hjit⟩, rfl⟩
    simp [hstarts] at hfails
  · intro consensus hlaunch
    obtain ⟨⟨hgenesis, _⟩, rfl⟩ := launch_eq_ok_iff.mp hlaunch
    refine ⟨fun root hall => CosmosConsensus.validate_of_authorized hgenesis hall,
      fun root tx hmem hnot => CosmosConsensus.validate_of_not_authorized hmem hnot, ?_⟩
    intro data hdata i tx hget items
    have hdescribes : Describes data block := describes_of_conversion hdoc hdata
    have hitems : items = block.body.transactions.map recoverItem :=
      hdescribes.payloadItems_eq hexact hstandard hconstructed
    have hitem : items[i]? = some (recoverItem (CosmosEnvelope.cosmos (T := T) tx)) := by
      rw [hitems, List.getElem?_map, hget]
      rfl
    refine ⟨fun h => ?_, fun h => ?_⟩
    · rw [hitem, recoverItem_of_authorized h]
    · rw [hitem, recoverItem_of_not_authorized h]

/-! ## A node on its chain -/

namespace Consensus.Sample

open Payload.Sample Primitives.Sample

def config : NodeConfig Eth Header Unit Unit where
  chain :=
    { genesisHash := genesisHash
      validateBlockPreExecutionWithTxRoot _ _ := .ok ⟨⟩ }
  jitEnabled := false

theorem constructed_of_mem (tx : CosmosSigned)
    (hmem : .cosmos tx ∈ block.body.transactions) : Constructed tx := by
  obtain rfl : tx = signed := by simpa [block] using hmem
  exact .new new_signed

end Consensus.Sample

open Consensus.Sample Payload.Sample Primitives.Sample in
theorem sample_block_is_judged_alike :
    ∃ consensus, launch config = .ok consensus ∧
      consensus.validateBlockPreExecutionWithTxRoot
        ⟨block.header, block.body.transactions⟩ none = .ok ⟨⟩ ∧
      (payloadItems (T := Eth)
        (blockToPayload block none : EngineData PayloadFields).executionData)[1]? =
          some (.ok ⟨.cosmos signed, operation.sender⟩) := by
  have hjudged := consensus_and_engine_judge_alike Eth Header PayloadFields Unit Unit
    eth_exactForm eth_knowsStandardTypes payloadFields_documented config block constructed_of_mem
  have hauthorized : IsAuthorized signed := operation_authorized
  have hlaunch : launch config = .ok ⟨config.chain⟩ := launch_eq_ok_iff.mpr ⟨⟨rfl, rfl⟩, rfl⟩
  obtain ⟨hupstream, _, hitems⟩ := hjudged.2 _ hlaunch
  refine ⟨_, hlaunch, ?_, ?_⟩
  · apply hupstream
    intro tx hmem
    obtain rfl : tx = signed := by simpa [block] using hmem
    exact hauthorized
  · exact (hitems _ (Or.inl ⟨none, rfl⟩) 1 signed rfl).1 hauthorized

end RethCosmos
