import RethCosmos.Payload.Build

/-!
# Size of a build

From Osaka on the RLP form of a block has a largest size. The loop estimates it before each
transaction, with a fixed room for all of the block but its transactions and withdrawals.
-/

namespace RethCosmos.Payload

open Encoding Rust Upstream Primitives CosmosAuth

variable {T H ε : Type} [Encodable2718 T]

/-- The transactions of the block, in order. -/
def blockTransactions (executed : List (Executed T ε)) : List (CosmosEnvelope T) :=
  executed.map fun entry => entry.turn.tx.tx

/-- What is expected of the assembled block. -/
structure AssembledFrom (executed : List (Executed T ε)) (attributes : PayloadAttributes)
    (block : RecoveredBlock (CosmosEnvelope T) H) : Prop where
  transactions : block.body.transactions = blockTransactions executed
  ommers : block.body.ommers = []
  withdrawals : block.body.withdrawals = some (attributes.withdrawals.getD [])

/-! ## The estimate -/

section Estimate

variable [TransactionAccessors T] [TxHashRef T] [RlpBlockSize] {env : Env} {state : State T ε}
  {bestTxs : List (Turn T ε)}

/-- The running length is that of the transactions in the block. -/
theorem blockTransactionsRlpLength_eq (hrun : executeBest env bestTxs = .ok state) :
    state.totals.blockTransactionsRlpLength = payloadLength (blockTransactions state.executed) := by
  have hmeasure := @Outcome.measure_foldl _ _ Totals.add Totals.blockTransactionsRlpLength
    (fun entry : Executed T ε => entry.turn.txRlpLen) (fun _ _ => rfl) .zero state.executed
  rw [totals_eq hrun, hmeasure]
  simp only [Totals.zero, Nat.zero_add, payloadLength, blockTransactions, List.map_map]
  rfl

/-- The last transaction in the block has passed the check of the estimate. -/
theorem estimate_le (hosaka : env.isOsaka = true) (hrun : executeBest env bestTxs = .ok state)
    (hsome : state.executed ≠ []) :
    state.totals.blockTransactionsRlpLength + env.withdrawalsRlpLength + blockOverhead ≤
      RlpBlockSize.max := by
  refine run_invariant (I := fun totals executed => executed ≠ [] →
    totals.blockTransactionsRlpLength + env.withdrawalsRlpLength + blockOverhead ≤
      RlpBlockSize.max) ?_ ?_ hrun hsome
  · intro hnil
    exact absurd rfl hnil
  · intro totals executed entry _ hadmitted _ _
    exact hadmitted.checked.size hosaka

end Estimate

/-! ## The assembled block -/

section Block

variable [RlpEncodable H] {executed : List (Executed T ε)} {attributes : PayloadAttributes}
  {block : RecoveredBlock (CosmosEnvelope T) H}

/-- Withdrawals that are absent from the attributes are an empty list in the block. -/
theorem listLength_withdrawals_le (withdrawals : Option (List Withdrawal)) :
    listLength (withdrawals.getD []) ≤
      (match withdrawals with
        | some withdrawals => listLength withdrawals
        | none => 0) + 1 := by
  cases withdrawals with
  | none => exact le_of_eq listLength_nil
  | some withdrawals => exact Nat.le_succ _

/-- The room that is kept is enough for a header of up to 1000 bytes. -/
theorem AssembledFrom.rlpLength_le (hassembled : AssembledFrom executed attributes block)
    (hheader : RlpEncodable.length block.header ≤ 1000) {limit withdrawalsRlpLength : Nat}
    (hlimit : limit < 2 ^ 24)
    (hwithdrawals : listLength (attributes.withdrawals.getD []) ≤ withdrawalsRlpLength + 1)
    (hestimate : payloadLength (blockTransactions executed) + withdrawalsRlpLength + blockOverhead ≤
      limit) : block.rlpLength ≤ limit := by
  unfold blockOverhead at hestimate
  have htransactions : payloadLength block.body.transactions =
      payloadLength (blockTransactions executed) := by rw [hassembled.transactions]
  have hlength := RecoveredBlock.rlpLength_le hassembled.ommers hassembled.withdrawals
    (by omega)
  omega

end Block

/-- The block of a run: it is assembled from the transactions of the run, its header has 1000
bytes at most, and it has a transaction, or withdrawals that leave the room that is kept. -/
structure WithinRoom [RlpEncodable H] [RlpBlockSize] (env : Env) (attributes : PayloadAttributes)
    (executed : List (Executed T ε)) (block : RecoveredBlock (CosmosEnvelope T) H) : Prop where
  assembled : AssembledFrom executed attributes block
  header : RlpEncodable.length block.header ≤ 1000
  room : executed ≠ [] ∨ env.withdrawalsRlpLength + blockOverhead ≤ RlpBlockSize.max

section Build

variable [TransactionAccessors T] [TxHashRef T] [RlpEncodable H] [RlpBlockSize]
  {spec : ChainSpec} {builder : BlockBuilder (CosmosEnvelope T) H ε}
  {builderConfig : EthereumBuilderConfig} {attributes : PayloadAttributes} {state : State T ε}
  {bestTxs : List (Turn T ε)}

theorem WithinRoom.rlpLength_le {block : RecoveredBlock (CosmosEnvelope T) H}
    (h : WithinRoom (buildEnv spec builder builderConfig attributes) attributes state.executed
      block)
    (hlimit : RlpBlockSize.max < 2 ^ 24)
    (hosaka : (buildEnv spec builder builderConfig attributes).isOsaka = true)
    (hrun : executeBest (buildEnv spec builder builderConfig attributes) bestTxs = .ok state) :
    block.rlpLength ≤ RlpBlockSize.max := by
  apply h.assembled.rlpLength_le h.header hlimit (listLength_withdrawals_le attributes.withdrawals)
  rcases eq_or_ne state.executed [] with hnil | hsome
  · have hempty := h.room.resolve_left (not_not.mpr hnil)
    have hzero : payloadLength (blockTransactions ([] : List (Executed T ε))) = 0 := rfl
    rw [hnil, hzero, Nat.zero_add]
    exact hempty
  · rw [← blockTransactionsRlpLength_eq hrun]
    exact estimate_le hosaka hrun hsome

end Build

/-- From Osaka on, the running length is that of the transactions in the block, and a block
within the room that the estimate keeps is not too large. If the assembly gives no other
block, the build does not end with the error for a block that is. -/
theorem size_estimate_is_sound (T H ε : Type) [TransactionAccessors T] [TxHashRef T]
    [Encodable2718 T] [RlpEncodable H] [BlockHeader H] [RlpBlockSize]
    (hlimit : RlpBlockSize.max < 2 ^ 24) (evmConfig : ConfigureEvm (CosmosEnvelope T) H ε)
    (client : Client ε) (builderConfig : EthereumBuilderConfig) (args : BuildArguments T H ε)
    (bestTxs : BestTransactionsAttributes → List (Turn T ε))
    (builder : BlockBuilder (CosmosEnvelope T) H ε)
    (hsetUp : SetUp evmConfig client builderConfig args builder) :
    let attributes := args.config.attributes
    let env := buildEnv client.chainSpec builder builderConfig attributes
    let stream := bestTxs (bestTransactionsAttributes builder)
    env.isOsaka = true →
      (∀ state, executeBest env stream = .ok state →
        state.totals.blockTransactionsRlpLength =
            payloadLength (blockTransactions state.executed) ∧
          ∀ block : RecoveredBlock (CosmosEnvelope T) H,
            WithinRoom env attributes state.executed block →
              block.rlpLength ≤ RlpBlockSize.max) ∧
      ((∀ state outcome, executeBest env stream = .ok state →
          builder.finish (state.executed.map fun entry => entry.turn.tx)
            (knownStateRoot builderConfig args) = .ok outcome →
          WithinRoom env attributes state.executed outcome.block) →
        ∀ rlpLength maxRlpLength,
          defaultEthereumPayload evmConfig client builderConfig args bestTxs ≠
            .err (.other (.blockTooLarge rlpLength maxRlpLength))) := by
  intro attributes env stream hosaka
  constructor
  · intro state hrun
    refine ⟨blockTransactionsRlpLength_eq hrun, ?_⟩
    intro block hwithin
    exact hwithin.rlpLength_le hlimit hosaka hrun
  · intro hassembly rlpLength maxRlpLength herror
    obtain ⟨builder', state, outcome, hassembles, hlarge⟩ := run_of_blockTooLarge herror
    obtain rfl := hsetUp.builder_unique hassembles.setUp
    have hwithin := hassembly state outcome hassembles.run hassembles.finish
    have hfits := hwithin.rlpLength_le hlimit hosaka hassembles.run
    exact absurd hlarge (Nat.not_lt.mpr hfits)

open Sample in
/-- From Osaka on the sample stream is not built into a block that is too large. -/
theorem sample_block_is_not_too_large :
    ¬ ∃ rlpLength maxRlpLength, defaultEthereumPayload evmConfig (client true) builderConfig
      buildArguments (fun _ => stream) = .err (.other (.blockTooLarge rlpLength maxRlpLength)) := by
  intro htoo
  obtain ⟨rlpLength, maxRlpLength, herror⟩ := htoo
  have hsound := size_estimate_is_sound _ _ _ (by decide) evmConfig (client true) builderConfig
    buildArguments (fun _ => stream) blockBuilder (setUp true)
  refine (hsound rfl).2 ?_ rlpLength maxRlpLength herror
  intro state outcome _ hfinish
  obtain rfl := Except.ok.inj hfinish
  refine ⟨⟨?_, rfl, rfl⟩, (by decide : 600 ≤ 1000), Or.inr (by decide)⟩
  exact List.map_map

end RethCosmos.Payload
