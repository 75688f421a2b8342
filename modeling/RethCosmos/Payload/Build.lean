import RethCosmos.Payload.Run

/-!
# Builds

How a build ends: in front of its loop, out of its loop, or with the block that is assembled
for the totals of the loop.
-/

namespace RethCosmos.Payload

open Encoding Rust Upstream Primitives CosmosAuth

/-! ## Assembly -/

section Assembly

variable {T H ε : Type} [Encodable2718 T] [RlpBlockSize] [RlpEncodable H] [BlockHeader H]
  {spec : ChainSpec} {env : Env} {builder : BlockBuilder (CosmosEnvelope T) H ε}
  {builderConfig : EthereumBuilderConfig} {args : BuildArguments T H ε} {state : State T ε}

theorem assemble_of_not_better
    (hbetter : isBetterPayload args.bestPayload state.totals.totalFees = false) :
    assemble spec env builder builderConfig args state =
      .ok (.aborted state.totals.totalFees) := by
  simp only [assemble, hbetter, Bool.false_eq_true, not_false_eq_true, if_true]

/-- The block that is assembled for a better payload decides how the build ends. -/
theorem assemble_of_finish {outcome : BlockBuilderOutcome (CosmosEnvelope T) H}
    (hbetter : isBetterPayload args.bestPayload state.totals.totalFees = true)
    (hfinish : builder.finish (state.executed.map fun entry => entry.turn.tx)
      (knownStateRoot builderConfig args) = .ok outcome) :
    assemble spec env builder builderConfig args state =
      if env.isOsaka ∧ outcome.block.rlpLength > RlpBlockSize.max then
        .error (.other (.blockTooLarge outcome.block.rlpLength RlpBlockSize.max))
      else .ok (.better (builtPayload spec args.config.attributes state.totals outcome)) := by
  simp only [assemble, hbetter, hfinish, not_true_eq_false, if_false, Except.mapError, ok_bind,
    pure_eq_ok]

theorem assemble_of_fits {outcome : BlockBuilderOutcome (CosmosEnvelope T) H}
    (hbetter : isBetterPayload args.bestPayload state.totals.totalFees = true)
    (hfinish : builder.finish (state.executed.map fun entry => entry.turn.tx)
      (knownStateRoot builderConfig args) = .ok outcome)
    (hfits : ¬ (env.isOsaka = true ∧ outcome.block.rlpLength > RlpBlockSize.max)) :
    assemble spec env builder builderConfig args state =
      .ok (.better (builtPayload spec args.config.attributes state.totals outcome)) := by
  rw [assemble_of_finish hbetter hfinish]
  exact if_neg hfits

/-- What follows the loop aborts, fails in the assembly, finds the block too large, or ends with
the payload of the totals and of the assembled block. -/
theorem assemble_cases (spec : ChainSpec) (env : Env)
    (builder : BlockBuilder (CosmosEnvelope T) H ε) (builderConfig : EthereumBuilderConfig)
    (args : BuildArguments T H ε) (state : State T ε) :
    (isBetterPayload args.bestPayload state.totals.totalFees = false ∧
        assemble spec env builder builderConfig args state =
          .ok (.aborted state.totals.totalFees)) ∨
      (∃ e, assemble spec env builder builderConfig args state =
        .error (.evmExecutionError e)) ∨
      ∃ outcome, builder.finish (state.executed.map fun entry => entry.turn.tx)
          (knownStateRoot builderConfig args) = .ok outcome ∧
        ((outcome.block.rlpLength > RlpBlockSize.max ∧
            assemble spec env builder builderConfig args state =
              .error (.other (.blockTooLarge outcome.block.rlpLength RlpBlockSize.max))) ∨
          assemble spec env builder builderConfig args state =
            .ok (.better (builtPayload spec args.config.attributes state.totals outcome))) := by
  cases hbetter : isBetterPayload args.bestPayload state.totals.totalFees with
  | false => exact Or.inl ⟨rfl, assemble_of_not_better hbetter⟩
  | true =>
      cases hfinish : builder.finish (state.executed.map fun entry => entry.turn.tx)
          (knownStateRoot builderConfig args) with
      | error e =>
          refine Or.inr (Or.inl ⟨e, ?_⟩)
          simp only [assemble, hbetter, hfinish, not_true_eq_false, if_false, Except.mapError,
            error_bind]
      | ok outcome =>
          refine Or.inr (Or.inr ⟨outcome, rfl, ?_⟩)
          by_cases hlarge : env.isOsaka = true ∧ outcome.block.rlpLength > RlpBlockSize.max
          · left
            rw [assemble_of_finish hbetter hfinish]
            exact ⟨hlarge.2, if_pos hlarge⟩
          · right
            exact assemble_of_fits hbetter hfinish hlarge

end Assembly

/-! ## Set-up and loop -/

section SetUp

variable {T H ε : Type} [BlockHeader H] {evmConfig : ConfigureEvm (CosmosEnvelope T) H ε}
  {client : Client ε} {builderConfig : EthereumBuilderConfig} {args : BuildArguments T H ε}
  {builder builder' : BlockBuilder (CosmosEnvelope T) H ε}

/-- Everything in front of the loop succeeds, with this builder of the block. -/
structure SetUp (evmConfig : ConfigureEvm (CosmosEnvelope T) H ε) (client : Client ε)
    (builderConfig : EthereumBuilderConfig) (args : BuildArguments T H ε)
    (builder : BlockBuilder (CosmosEnvelope T) H ε) : Prop where
  provider : client.stateByBlockHash args.config.parentHeader.hash = .ok ⟨⟩
  nextBlock : evmConfig.builderForNextBlock args.config.parentHeader
    (nextBlockEnvAttributes builderConfig args.config) = .ok builder
  preExecution : builder.applyPreExecutionChanges = .ok ⟨⟩

theorem SetUp.builder_unique (h : SetUp evmConfig client builderConfig args builder)
    (h' : SetUp evmConfig client builderConfig args builder') : builder = builder' :=
  Except.ok.inj (h.nextBlock.symm.trans h'.nextBlock)

end SetUp

section Build

variable {T H ε : Type} [TransactionAccessors T] [TxHashRef T] [Encodable2718 T] [RlpBlockSize]
  [RlpEncodable H] [BlockHeader H] {spec : ChainSpec}
  {builder : BlockBuilder (CosmosEnvelope T) H ε} {evmConfig : ConfigureEvm (CosmosEnvelope T) H ε}
  {client : Client ε} {builderConfig : EthereumBuilderConfig} {args : BuildArguments T H ε}
  {bestTxs : BestTransactionsAttributes → List (Turn T ε)}

theorem defaultEthereumPayload_of_setUp (h : SetUp evmConfig client builderConfig args builder) :
    defaultEthereumPayload evmConfig client builderConfig args bestTxs =
      buildPayload client.chainSpec builder builderConfig args
        (bestTxs (bestTransactionsAttributes builder)) := by
  simp only [defaultEthereumPayload, h.provider, h.nextBlock, h.preExecution, Except.mapError,
    Outcome.ofExcept, Outcome.ok_bind]

theorem buildPayload_of_run {state : State T ε} {bestTxs : List (Turn T ε)}
    (hrun : executeBest (buildEnv spec builder builderConfig args.config.attributes) bestTxs =
      .ok state) :
    buildPayload spec builder builderConfig args bestTxs =
      Outcome.ofExcept (assemble spec
        (buildEnv spec builder builderConfig args.config.attributes) builder builderConfig args
        state) := by
  simp only [buildPayload, hrun]

/-- How a build ends that has no block. -/
inductive Unassembled : Outcome (PayloadBuilderError ε) (BuildOutcome T H) → Prop
  | internal (e : ε) : Unassembled (.err (.internal e))
  | upstream (e : ε) : Unassembled (.err (.other (.upstream e)))
  | execution (e : BlockExecutionError ε) : Unassembled (.err (.evmExecutionError e))
  | cancelled : Unassembled (.ok .cancelled)
  | aborted (fees : U256) : Unassembled (.ok (.aborted fees))
  | panic (message : String) : Unassembled (.panic message)

/-- Everything in front of the loop succeeds, or a foreign error ends the build there. -/
theorem setUp_cases (evmConfig : ConfigureEvm (CosmosEnvelope T) H ε) (client : Client ε)
    (builderConfig : EthereumBuilderConfig) (args : BuildArguments T H ε)
    (bestTxs : BestTransactionsAttributes → List (Turn T ε)) :
    (∃ builder, SetUp evmConfig client builderConfig args builder) ∨
      (∃ e, defaultEthereumPayload evmConfig client builderConfig args bestTxs =
        .err (.internal e)) ∨
      ∃ e, defaultEthereumPayload evmConfig client builderConfig args bestTxs =
        .err (.other (.upstream e)) := by
  cases hprovider : client.stateByBlockHash args.config.parentHeader.hash with
  | error e =>
      refine Or.inr (Or.inl ⟨e, ?_⟩)
      simp only [defaultEthereumPayload, hprovider, Except.mapError, Outcome.ofExcept,
        Outcome.err_bind]
  | ok _ =>
      cases hnext : evmConfig.builderForNextBlock args.config.parentHeader
          (nextBlockEnvAttributes builderConfig args.config) with
      | error e =>
          refine Or.inr (Or.inr ⟨e, ?_⟩)
          simp only [defaultEthereumPayload, hprovider, hnext, Except.mapError, Outcome.ofExcept,
            Outcome.ok_bind, Outcome.err_bind]
      | ok builder =>
          cases hpre : builder.applyPreExecutionChanges with
          | error e =>
              refine Or.inr (Or.inl ⟨e, ?_⟩)
              simp only [defaultEthereumPayload, hprovider, hnext, hpre, Except.mapError,
                Outcome.ofExcept, Outcome.ok_bind, Outcome.err_bind]
          | ok _ => exact Or.inl ⟨builder, hprovider, hnext, hpre⟩

/-- A build comes to its assembly with the state of its loop, or its loop stops it. -/
theorem buildPayload_cases (spec : ChainSpec) (builder : BlockBuilder (CosmosEnvelope T) H ε)
    (builderConfig : EthereumBuilderConfig) (args : BuildArguments T H ε)
    (bestTxs : List (Turn T ε)) :
    (∃ state, executeBest (buildEnv spec builder builderConfig args.config.attributes) bestTxs =
        .ok state) ∨
      Unassembled (buildPayload spec builder builderConfig args bestTxs) := by
  cases hrun : executeBest (buildEnv spec builder builderConfig args.config.attributes)
      bestTxs with
  | ok state => exact Or.inl ⟨state, rfl⟩
  | panic message =>
      right
      simp only [buildPayload, hrun]
      exact .panic message
  | err stop =>
      right
      have hloop := run_eq_err hrun
      simp only [buildPayload, hrun]
      match stop, hloop with
      | .cancelled, _ => exact .cancelled
      | .failed (.other (.upstream e)), _ => exact .upstream e
      | .failed (.evmExecutionError e), _ => exact .execution e

/-- The block that a build assembles comes from the state in which its loop ended. -/
structure Assembles (evmConfig : ConfigureEvm (CosmosEnvelope T) H ε) (client : Client ε)
    (builderConfig : EthereumBuilderConfig) (args : BuildArguments T H ε)
    (bestTxs : BestTransactionsAttributes → List (Turn T ε))
    (builder : BlockBuilder (CosmosEnvelope T) H ε) (state : State T ε)
    (outcome : BlockBuilderOutcome (CosmosEnvelope T) H) : Prop where
  setUp : SetUp evmConfig client builderConfig args builder
  run : executeBest (buildEnv client.chainSpec builder builderConfig args.config.attributes)
    (bestTxs (bestTransactionsAttributes builder)) = .ok state
  finish : builder.finish (state.executed.map fun entry => entry.turn.tx)
    (knownStateRoot builderConfig args) = .ok outcome

/-- A build ends with the payload of the block it assembled, finds that block too large, or has
no block. -/
theorem defaultEthereumPayload_cases (evmConfig : ConfigureEvm (CosmosEnvelope T) H ε)
    (client : Client ε) (builderConfig : EthereumBuilderConfig) (args : BuildArguments T H ε)
    (bestTxs : BestTransactionsAttributes → List (Turn T ε)) :
    (∃ builder state outcome,
        Assembles evmConfig client builderConfig args bestTxs builder state outcome ∧
        (defaultEthereumPayload evmConfig client builderConfig args bestTxs =
            .ok (.better (builtPayload client.chainSpec args.config.attributes state.totals
              outcome)) ∨
          outcome.block.rlpLength > RlpBlockSize.max ∧
            defaultEthereumPayload evmConfig client builderConfig args bestTxs =
              .err (.other (.blockTooLarge outcome.block.rlpLength RlpBlockSize.max)))) ∨
      Unassembled (defaultEthereumPayload evmConfig client builderConfig args bestTxs) := by
  rcases setUp_cases evmConfig client builderConfig args bestTxs with
    ⟨builder, hsetUp⟩ | ⟨e, hinternal⟩ | ⟨e, hupstream⟩
  · rw [defaultEthereumPayload_of_setUp hsetUp]
    rcases buildPayload_cases client.chainSpec builder builderConfig args
        (bestTxs (bestTransactionsAttributes builder)) with ⟨state, hrun⟩ | hends
    · rw [buildPayload_of_run hrun]
      rcases assemble_cases client.chainSpec
          (buildEnv client.chainSpec builder builderConfig args.config.attributes) builder
          builderConfig args state with
        ⟨_, haborted⟩ | ⟨e, herror⟩ | ⟨outcome, hfinish, ⟨hlarge, hover⟩ | hbetter⟩
      · rw [haborted]
        exact Or.inr (.aborted _)
      · rw [herror]
        exact Or.inr (.execution e)
      · rw [hover]
        exact Or.inl ⟨builder, state, outcome, ⟨hsetUp, hrun, hfinish⟩, Or.inr ⟨hlarge, rfl⟩⟩
      · rw [hbetter]
        exact Or.inl ⟨builder, state, outcome, ⟨hsetUp, hrun, hfinish⟩, Or.inl rfl⟩
    · exact Or.inr hends
  · rw [hinternal]
    exact Or.inr (.internal e)
  · rw [hupstream]
    exact Or.inr (.upstream e)

/-! ## Results of a build -/

/-- A payload is built of the totals of a run that ended, and of the block assembled for it. -/
theorem run_of_better {payload : CosmosBuiltPayload T H}
    (hbuilt : defaultEthereumPayload evmConfig client builderConfig args bestTxs =
      .ok (.better payload)) :
    ∃ builder state outcome,
      Assembles evmConfig client builderConfig args bestTxs builder state outcome ∧
      payload = builtPayload client.chainSpec args.config.attributes state.totals outcome := by
  rcases defaultEthereumPayload_cases evmConfig client builderConfig args bestTxs with
    ⟨builder, state, outcome, hassembles, hbetter | ⟨_, hover⟩⟩ | hends
  · obtain rfl := BuildOutcome.better.inj (Outcome.ok.inj (hbuilt.symm.trans hbetter))
    exact ⟨builder, state, outcome, hassembles, rfl⟩
  · simp [hbuilt] at hover
  · rw [hbuilt] at hends
    cases hends

/-- Only an assembled block can be too large. -/
theorem run_of_blockTooLarge {rlpLength maxRlpLength : Nat}
    (hbuilt : defaultEthereumPayload evmConfig client builderConfig args bestTxs =
      .err (.other (.blockTooLarge rlpLength maxRlpLength))) :
    ∃ builder state outcome,
      Assembles evmConfig client builderConfig args bestTxs builder state outcome ∧
      outcome.block.rlpLength > RlpBlockSize.max := by
  rcases defaultEthereumPayload_cases evmConfig client builderConfig args bestTxs with
    ⟨builder, state, outcome, hassembles, hbetter | ⟨hlarge, _⟩⟩ | hends
  · simp [hbuilt] at hbetter
  · exact ⟨builder, state, outcome, hassembles, hlarge⟩
  · rw [hbuilt] at hends
    cases hends

/-- No build ends with the error for a missing payload. -/
theorem defaultEthereumPayload_ne_missing (evmConfig : ConfigureEvm (CosmosEnvelope T) H ε)
    (client : Client ε) (builderConfig : EthereumBuilderConfig) (args : BuildArguments T H ε)
    (bestTxs : BestTransactionsAttributes → List (Turn T ε)) :
    defaultEthereumPayload evmConfig client builderConfig args bestTxs ≠ .err .missingPayload := by
  intro hmissing
  rcases defaultEthereumPayload_cases evmConfig client builderConfig args bestTxs with
    ⟨_, _, _, _, hbetter | ⟨_, hover⟩⟩ | hends
  · simp [hmissing] at hbetter
  · simp [hmissing] at hover
  · rw [hmissing] at hends
    cases hends

/-- Without transactions and without a best payload there is nothing to abort or cancel for. -/
theorem intoPayload_of_empty {outcome : BuildOutcome T H} (hnone : args.bestPayload = none)
    (hbuilt : defaultEthereumPayload evmConfig client builderConfig args
      (fun _ => ([] : List (Turn T ε))) = .ok outcome) :
    ∃ payload, outcome.intoPayload = some payload := by
  rcases setUp_cases evmConfig client builderConfig args (fun _ => ([] : List (Turn T ε))) with
    ⟨builder, hsetUp⟩ | ⟨e, hinternal⟩ | ⟨e, hupstream⟩
  · have hrun : executeBest (buildEnv client.chainSpec builder builderConfig
        args.config.attributes) ([] : List (Turn T ε)) = .ok State.start := rfl
    rw [defaultEthereumPayload_of_setUp hsetUp, buildPayload_of_run hrun,
      Outcome.ofExcept_eq_ok_iff] at hbuilt
    rcases assemble_cases client.chainSpec
        (buildEnv client.chainSpec builder builderConfig args.config.attributes) builder
        builderConfig args State.start with
      ⟨hworse, _⟩ | ⟨e, herror⟩ | ⟨_, _, ⟨_, hlarge⟩ | hbetter⟩
    · rw [hnone] at hworse
      exact absurd hworse (by simp [isBetterPayload])
    · simp [herror] at hbuilt
    · simp [hlarge] at hbuilt
    · rw [hbetter] at hbuilt
      obtain rfl := Except.ok.inj hbuilt
      exact ⟨_, rfl⟩
  · simp [hinternal] at hbuilt
  · simp [hupstream] at hbuilt

end Build

/-! ## A node -/

namespace Sample

open Primitives.Sample

/-- A header of 600 bytes. -/
structure Header where
  gasLimit : U64
  stateRoot : B256
  deriving DecidableEq

instance : RlpEncodable Header where
  encode header := Rlp.encodeList (header.stateRoot.data ++ List.replicate 565 0)
  length _ := 600

instance : BlockHeader Header where
  gasLimit := Header.gasLimit
  stateRoot := Header.stateRoot

def parentHeader : SealedHeader Header where
  header := ⟨30000000, FixedBytes.ofNat 32 1⟩
  hash := FixedBytes.ofNat 32 2

/-- Osaka and Prague are active from here on, or are not. -/
def chainSpec (isOsaka : Bool) : ChainSpec where
  isPragueActiveAtTimestamp _ := isOsaka
  isOsakaActiveAtTimestamp _ := isOsaka
  isAmsterdamActiveAtTimestamp _ := false
  blobParamsAtTimestamp _ := some ⟨6⟩

def blockBuilder : BlockBuilder (CosmosEnvelope Eth) Header Unit where
  gasLimit := 30000000
  basefee := 1000000000
  blobGasprice := some 1
  txGasLimitCap := 16777216
  applyPreExecutionChanges := .ok ⟨⟩
  finish txs stateRoot :=
    .ok
      { requests := []
        block :=
          { header := ⟨30000000, stateRoot.getD (FixedBytes.ofNat 32 3)⟩
            hash := FixedBytes.ofNat 32 4
            body :=
              { transactions := txs.map RecoveredTx.tx, ommers := [], withdrawals := some [] }
            senders := txs.map RecoveredTx.signer }
        blockAccessList := none }

def evmConfig : ConfigureEvm (CosmosEnvelope Eth) Header Unit where
  builderForNextBlock _ _ := .ok blockBuilder

def client (isOsaka : Bool) : Client Unit where
  stateByBlockHash _ := .ok ⟨⟩
  chainSpec := chainSpec isOsaka

def builderConfig : EthereumBuilderConfig where
  maxBlobsPerBlock := none
  skipStateRoot := false
  awaitPayloadOnMissing := false
  extraData := Bytes.copyFromSlice []
  gasLimitWithTarget parent _ := parent

def attributes : PayloadAttributes where
  timestamp := 1700000000
  prevRandao := FixedBytes.ofNat 32 5
  suggestedFeeRecipient := Legacy.sender
  withdrawals := some []
  parentBeaconBlockRoot := none
  slotNumber := none
  targetGasLimit := none

def buildArguments : BuildArguments Eth Header Unit where
  stateRootHandle := none
  config := { parentHeader, attributes }
  bestPayload := none

theorem setUp (isOsaka : Bool) :
    SetUp evmConfig (client isOsaka) builderConfig buildArguments blockBuilder where
  provider := rfl
  nextBlock := rfl
  preExecution := rfl

end Sample

end RethCosmos.Payload
