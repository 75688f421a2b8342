import RethCosmos.Payload.Engine
import RethCosmos.Pipeline

/-!
# Replay of built payloads

What the builder executed is what every node executes when it is given the payload: the same
transactions for the same signers. The blobs that the sidecar of the payload names are those
that the builder counted, and those that the envelope of the fork carries.
-/

namespace RethCosmos.Payload

open Encoding Rust Upstream Primitives CosmosAuth
open Crypto (Suite)

variable {T H V R E ε : Type}

/-- The pool hands out what it was given: a transaction that was constructed, with the signer
it was recovered for. -/
structure Turn.FromPool [Suite] [SignerRecoverable T] (turn : Turn T ε) : Prop where
  constructed : ∀ tx, turn.tx.tx = .cosmos tx → Constructed tx
  recovered : recoverSigner turn.tx.tx = .ok turn.tx.signer

/-- The transaction of an entry, for its signer. -/
def Executed.item (entry : Executed T ε) : Recovered T := ⟨entry.turn.tx.tx, entry.turn.tx.signer⟩

section

variable [Suite] [SignerRecoverable T] {turn : Turn T ε} {executed : List (Executed T ε)}

/-- A Cosmos transaction that the pool hands out is authorized, and for its own account. -/
theorem Turn.FromPool.verify (h : turn.FromPool) {tx : CosmosSigned}
    (htx : turn.tx.tx = .cosmos tx) :
    tx.verify = .ok turn.tx.signer ∧ turn.tx.signer = tx.operation.sender := by
  have hrecovered := h.recovered
  rw [htx] at hrecovered
  exact ⟨hrecovered, (verify_eq_ok_iff_authorized.mp hrecovered).2⟩

theorem recoverItem_blockTransactions (hpool : ∀ entry ∈ executed, entry.turn.FromPool) :
    (blockTransactions executed).map recoverItem =
      executed.map fun entry => .ok entry.item := by
  rw [blockTransactions, List.map_map]
  apply List.map_congr_left
  intro entry hmem
  exact recoverItem_eq_ok (hpool entry hmem).recovered

omit [Suite] [SignerRecoverable T] in
/-- Every transaction of the assembled block is that of an entry. -/
theorem AssembledFrom.exists_entry {H : Type} {attributes : PayloadAttributes}
    {block : RecoveredBlock (CosmosEnvelope T) H} {tx : CosmosEnvelope T}
    (h : AssembledFrom executed attributes block) (hmem : tx ∈ block.body.transactions) :
    ∃ entry ∈ executed, entry.turn.tx.tx = tx := by
  rw [h.transactions, blockTransactions] at hmem
  exact List.mem_map.mp hmem

end

theorem turn_mem_of_executed [TransactionAccessors T] [TxHashRef T] [Encodable2718 T]
    [RlpBlockSize] {env : Env} {bestTxs : List (Turn T ε)} {state : State T ε}
    (hrun : executeBest env bestTxs = .ok state) {entry : Executed T ε}
    (hmem : entry ∈ state.executed) : entry.turn ∈ bestTxs :=
  (executed_sublist hrun).subset (List.mem_map_of_mem hmem)

/-- What the builder executed is what a node executes that is given the payload: the same
transactions for the same signers, in order. No authorization fails on the way, neither in the
consensus rule, which leaves the block to the upstream rules, nor in the environment of a
transaction. -/
theorem built_payload_is_replayed (T H V R E ε : Type) [Suite] [Encodable2718 T]
    [Decodable2718 T] [SignerRecoverable T] [TransactionAccessors T] [TxHashRef T]
    [RlpBlockSize] [RlpEncodable H] [BlockHeader H] [EngineHeader H] [ExecutionPayload V]
    [FromBlockUncheckedWithExtras V (H × BlockBody (CosmosEnvelope T) H)] [Inhabited E]
    [FromRecoveredTx T E] (hexact : ExactForm T) (hstandard : KnowsStandardTypes T)
    (hdoc : FromBlockUncheckedWithExtras.Documented V (CosmosEnvelope T) H)
    (evmConfig : ConfigureEvm (CosmosEnvelope T) H ε) (client : Client ε)
    (builderConfig : EthereumBuilderConfig) (args : BuildArguments T H ε)
    (bestTxs : BestTransactionsAttributes → List (Turn T ε))
    (hpool : ∀ attributes, ∀ turn ∈ bestTxs attributes, turn.FromPool)
    (hassembly : ∀ builder state outcome,
      Assembles evmConfig client builderConfig args bestTxs builder state outcome →
        AssembledFrom state.executed args.config.attributes outcome.block)
    (payload : CosmosBuiltPayload T H)
    (hbuilt : defaultEthereumPayload evmConfig client builderConfig args bestTxs =
      .ok (.better payload)) :
    ∃ builder state outcome,
      Assembles evmConfig client builderConfig args bestTxs builder state outcome ∧
      payloadItems (payload.intoExecutionData : EngineData V).executionData =
        state.executed.map (fun entry => .ok entry.item) ∧
      (∀ consensus : CosmosConsensus T H R ε, consensus.inner.genesisHash = genesisHash →
        ∀ root,
          consensus.validateBlockPreExecutionWithTxRoot
              ⟨payload.block.header, payload.block.body.transactions⟩ root =
            consensus.inner.validateBlockPreExecutionWithTxRoot
              ⟨payload.block.header, payload.block.body.transactions⟩ root) ∧
      ∀ entry ∈ state.executed, ∀ tx, entry.item.tx = .cosmos tx →
        fromRecoveredTx entry.item.tx entry.item.signer =
          .ok (cosmosTxEnv (R := E) tx.operation tx.operation.sender) := by
  obtain ⟨builder, state, outcome, hassembles, rfl⟩ := run_of_better hbuilt
  -- what was executed had been handed out by the pool
  have hkept : ∀ entry ∈ state.executed, entry.turn.FromPool := fun entry hmem =>
    hpool _ _ (turn_mem_of_executed hassembles.run hmem)
  have hassembled := hassembly builder state outcome hassembles
  refine ⟨builder, state, outcome, hassembles, ?_, ?_, ?_⟩
  · have hdescribes := describes_intoExecutionData hdoc
      (builtPayload client.chainSpec args.config.attributes state.totals outcome)
    have hconstructed : ∀ tx, .cosmos tx ∈ outcome.block.body.transactions →
        Constructed tx := by
      intro tx hmem
      obtain ⟨entry, hentry, htx⟩ := hassembled.exists_entry hmem
      exact (hkept entry hentry).constructed tx htx
    rw [hdescribes.payloadItems_eq hexact hstandard hconstructed,
      ← recoverItem_blockTransactions hkept, ← hassembled.transactions]
    rfl
  · intro consensus hgenesis root
    have hverified : consensus.verifyAuthorizations
        ⟨outcome.block.header, outcome.block.body.transactions⟩ = .ok ⟨⟩ := by
      refine consensus.verifyAuthorizations_eq_ok_iff.mpr ⟨hgenesis, ?_⟩
      intro tx hmem
      obtain ⟨entry, hentry, htx⟩ := hassembled.exists_entry hmem
      exact ⟨_, ((hkept entry hentry).verify htx).1⟩
    exact congrArg (fun verified => verified >>= fun _ =>
      consensus.inner.validateBlockPreExecutionWithTxRoot
        ⟨outcome.block.header, outcome.block.body.transactions⟩ root) hverified
  · intro entry hentry tx htx
    have hsender := ((hkept entry hentry).verify htx).2
    have hcaller : entry.item.signer = tx.operation.sender := hsender
    rw [htx, hcaller]
    exact fromRecoveredTx_cosmos rfl

namespace Sample

open Primitives.Sample Evm.Sample

/-- The late transaction, in time. -/
def cosmosTurn : Turn Eth Unit := { lateTurn with execution := .ok ⟨21000, 0⟩ }

theorem fromPool {turn : Turn Eth Unit} (hmem : turn ∈ [transferTurn, cosmosTurn]) :
    turn.FromPool := by
  rcases List.mem_pair.mp hmem with rfl | rfl
  · refine ⟨?_, rfl⟩
    intro tx htx
    have hother : CosmosEnvelope.ethereum Eth.transfer = .cosmos tx := htx
    cases hother
  · constructor
    · intro tx htx
      obtain rfl : signed = tx := CosmosEnvelope.cosmos.inj htx
      exact .new new_signed
    · exact verify_eq_ok_iff_authorized.mpr ⟨operation_authorized, rfl⟩

theorem assembledFrom {isOsaka : Bool}
    {bestTxs : BestTransactionsAttributes → List (Turn Eth Unit)}
    {builder : BlockBuilder (CosmosEnvelope Eth) Header Unit} {state : State Eth Unit}
    {outcome : BlockBuilderOutcome (CosmosEnvelope Eth) Header}
    (h : Assembles evmConfig (client isOsaka) builderConfig buildArguments bestTxs builder state
      outcome) :
    AssembledFrom state.executed buildArguments.config.attributes outcome.block := by
  obtain rfl := (setUp isOsaka).builder_unique h.setUp
  obtain rfl := Except.ok.inj h.finish
  exact ⟨List.map_map, rfl, rfl⟩

end Sample

open Sample Primitives.Sample Evm.Sample in
/-- A block of a transfer and a Cosmos transaction. -/
theorem sample_payload_is_replayed :
    ∃ payload, defaultEthereumPayload evmConfig (client false) builderConfig buildArguments
        (fun _ => [transferTurn, cosmosTurn]) = .ok (.better payload) ∧
      payloadItems (payload.intoExecutionData : EngineData PayloadFields).executionData =
        [.ok ⟨CosmosEnvelope.ethereum Eth.transfer, Legacy.sender⟩,
          .ok ⟨CosmosEnvelope.cosmos (T := Eth) signed, operation.sender⟩] := by
  refine ⟨_, rfl, ?_⟩
  obtain ⟨builder, state, outcome, hassembles, hitems, _⟩ :=
    built_payload_is_replayed Eth Header PayloadFields Unit Unit Unit eth_exactForm
      eth_knowsStandardTypes payloadFields_documented evmConfig (client false) builderConfig
      buildArguments (fun _ => [transferTurn, cosmosTurn]) (fun _ _ hmem => fromPool hmem)
      (fun _ _ _ h => assembledFrom h) _ rfl
  obtain rfl := (setUp false).builder_unique hassembles.setUp
  have hstate : Outcome.ok state = Outcome.ok _ := hassembles.run.symm.trans rfl
  obtain rfl := Outcome.ok.inj hstate
  exact hitems

/-! ## Blobs -/

/-- The versioned hashes of the transaction. -/
def Executed.versionedHashes [TransactionAccessors T] (entry : Executed T ε) :
    List (FixedBytes 32) :=
  (blobVersionedHashes entry.turn.tx.tx).getD []

/-- The blobs of what the blob store answers. -/
def storedBlobCount : Except ε (Option BlobTransactionSidecarVariant) → Nat
  | .ok (some sidecar) => sidecar.blobs.length
  | _ => 0

section Blobs

variable [TransactionAccessors T] {env : Env} {totals : Totals} {executed : List (Executed T ε)}

theorem Executed.length_versionedHashes (entry : Executed T ε) :
    entry.versionedHashes.length = entry.blobCount := by
  simp only [versionedHashes, Executed.blobCount, Turn.txBlobCount, Upstream.blobCount]
  cases blobVersionedHashes entry.turn.tx.tx <;> rfl

theorem sum_blobCount_hasBlobs (executed : List (Executed T ε)) :
    ((executed.filter Executed.hasBlobs).map Executed.blobCount).sum =
      (executed.map Executed.blobCount).sum := by
  induction executed with
  | nil => rfl
  | cons entry rest ih =>
      cases hcount : entry.turn.txBlobCount with
      | none =>
          have hnot : entry.hasBlobs = false := by rw [Executed.hasBlobs, hcount]; rfl
          have hzero : entry.blobCount = 0 := by rw [Executed.blobCount, hcount]; rfl
          rw [List.filter_cons_of_neg (by simp [hnot]), ih, List.map_cons, List.sum_cons, hzero,
            Nat.zero_add]
      | some n =>
          have hhas : entry.hasBlobs = true := by rw [Executed.hasBlobs, hcount]; rfl
          rw [List.filter_cons_of_pos hhas, List.map_cons, List.map_cons, List.sum_cons,
            List.sum_cons, ih]

variable [TxHashRef T]

/-- With one blob for each hash in every stored sidecar, the kept sidecars have as many blobs as
were counted. -/
theorem AlignedBlobs.length_blobs (h : AlignedBlobs env totals executed)
    (hstore : ∀ entry ∈ executed, ∀ n sidecar, entry.turn.txBlobCount = some n →
      entry.storedBlob = .ok (some sidecar) → sidecar.blobs.length = n) :
    (totals.blobSidecars.toList.flatMap BlobTransactionSidecarVariant.blobs).length =
      totals.blockBlobCount := by
  have hcounts : ∀ entry ∈ executed.filter Executed.hasBlobs,
      storedBlobCount entry.storedBlob = entry.blobCount := by
    intro entry hmem
    obtain ⟨hentry, hhas⟩ := List.mem_filter.mp hmem
    obtain ⟨n, hcount⟩ := Option.isSome_iff_exists.mp hhas
    have hstored := List.mem_map_of_mem (f := Executed.storedBlob) hmem
    rw [h.stored] at hstored
    obtain ⟨sidecar, _, hsidecar⟩ := List.mem_map.mp hstored
    rw [← hsidecar, Executed.blobCount, hcount]
    exact hstore entry hentry n sidecar hcount hsidecar.symm
  -- count the blobs sidecar by sidecar, which are the stored ones entry by entry
  calc (totals.blobSidecars.toList.flatMap BlobTransactionSidecarVariant.blobs).length
      = ((totals.blobSidecars.toList.map
          fun sidecar => (.ok (some sidecar) : Except ε _)).map storedBlobCount).sum := by
        rw [List.length_flatMap, List.map_map]
        rfl
    _ = ((executed.filter Executed.hasBlobs).map Executed.blobCount).sum := by
        rw [← h.stored, List.map_map]
        exact congrArg List.sum (List.map_congr_left hcounts)
    _ = totals.blockBlobCount := by rw [sum_blobCount_hasBlobs, h.count]

omit [TxHashRef T] in
theorem AssembledFrom.blobVersionedHashesIter_eq [Encodable2718 T] {H : Type}
    {attributes : PayloadAttributes} {block : RecoveredBlock (CosmosEnvelope T) H}
    (h : AssembledFrom executed attributes block) :
    block.body.blobVersionedHashesIter = executed.flatMap Executed.versionedHashes := by
  rw [BlockBody.blobVersionedHashesIter, h.transactions, blockTransactions, List.flatMap_map]
  rfl

end Blobs

/-- With requests and a beacon root, the requests of the sidecar are those of the payload. -/
theorem requests_intoExecutionData [TransactionAccessors T] [EngineHeader H]
    [FromBlockUncheckedWithExtras V (H × BlockBody (CosmosEnvelope T) H)]
    {payload : CosmosBuiltPayload T H} (hrequests : payload.requests.isSome = true)
    (hroot : (EngineHeader.parentBeaconBlockRoot payload.block.header).isSome = true) :
    (payload.intoExecutionData : EngineData V).sidecar.requests = payload.requests := by
  obtain ⟨requests, hrequests⟩ := Option.isSome_iff_exists.mp hrequests
  obtain ⟨root, hroot⟩ := Option.isSome_iff_exists.mp hroot
  simp only [CosmosBuiltPayload.intoExecutionData, hrequests, RecoveredBlock.intoBlock, hroot]
  rfl

end RethCosmos.Payload
