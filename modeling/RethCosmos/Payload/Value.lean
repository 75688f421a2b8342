import RethCosmos.Payload.Gas
import RethCosmos.Payload.Build

/-!
# Value of a build

The fees of a payload are the tips of its transactions: each pays its tip for every unit of
gas it used. They decide which payload is kept, and no fee is lost or wraps.
-/

namespace RethCosmos.Payload

open Encoding Rust Upstream Primitives CosmosAuth

variable {T ε : Type} [TransactionAccessors T] {env : Env}

/-- The surplus over the base fee, capped where the transaction names a cap. -/
def tipPerGas (baseFee : U64) (tx : CosmosEnvelope T) : Nat :=
  match maxPriorityFeePerGas tx with
  | some priorityFee => min priorityFee.toNat ((maxFeePerGas tx).toNat - baseFee.toNat)
  | none => (maxFeePerGas tx).toNat - baseFee.toNat

/-- What the block producer earns with a transaction. -/
def Executed.value (env : Env) (entry : Executed T ε) : Nat :=
  entry.gasOutput.txGasUsed.toNat * tipPerGas env.baseFee entry.turn.tx.tx

/-- What is expected of an executor that reports a success: the transaction can pay the base
fee, and uses no more gas than it may. Where regular and state gas are told apart, it uses
no gas but these. -/
structure Turn.PaysForGas (env : Env) (turn : Turn T ε) : Prop where
  baseFee : ∀ gasOutput, turn.execution = .ok gasOutput →
    env.baseFee.toNat ≤ (maxFeePerGas turn.tx.tx).toNat
  gas : turn.GasWithinLimits env
  parts : env.isAmsterdam = true → ∀ gasOutput, turn.execution = .ok gasOutput →
    gasOutput.txGasUsed.toNat ≤ turn.txRegularGasUsed.toNat + gasOutput.stateGasUsed.toNat

/-! ## Bounds -/

section Bounds

variable [TxHashRef T] [Encodable2718 T] [RlpBlockSize] {bestTxs : List (Turn T ε)}
  {state : State T ε}

theorem minerFee_eq {totals : Totals} {entry : Executed T ε}
    (hadmitted : Admitted env totals entry) :
    entry.minerFee.toNat = tipPerGas env.baseFee entry.turn.tx.tx :=
  toNat_effectiveTipPerGas hadmitted.minerFee

/-- All gas of a block fits in 65 bits. -/
theorem sum_txGasUsed_lt (hexecutor : ∀ turn ∈ bestTxs, turn.PaysForGas env)
    (hrun : executeBest env bestTxs = .ok state) :
    (state.executed.map fun entry => entry.gasOutput.txGasUsed.toNat).sum < 2 ^ 65 := by
  have hwithin := withinBlockGas (fun turn hmem => (hexecutor turn hmem).gas) hrun
  have hlimit := env.blockGasLimit.isLt
  cases hfork : env.isAmsterdam with
  | false =>
      have hcounts := hwithin.beforeAmsterdam hfork
      have hle := hcounts.le
      rw [hcounts.exact] at hle
      omega
  | true =>
      have hregular := hwithin.regular hfork
      have hstate := hwithin.state hfork
      have hparts : (state.executed.map fun entry => entry.gasOutput.txGasUsed.toNat).sum ≤
          (state.executed.map fun entry => entry.turn.txRegularGasUsed.toNat +
            entry.gasOutput.stateGasUsed.toNat).sum := by
        apply List.sum_le_sum
        intro entry hmem
        obtain ⟨totals, hadmitted⟩ := admitted_of_mem hrun entry hmem
        have hturn := (executed_sublist hrun).subset (List.mem_map_of_mem hmem)
        exact (hexecutor _ hturn).parts hfork _ hadmitted.execution
      rw [List.sum_map_add] at hparts
      have hregularLe := hregular.le
      have hstateLe := hstate.le
      rw [hregular.exact] at hregularLe
      rw [hstate.exact] at hstateLe
      omega

theorem sum_value_lt (hexecutor : ∀ turn ∈ bestTxs, turn.PaysForGas env)
    (hrun : executeBest env bestTxs = .ok state) :
    (state.executed.map (Executed.value env)).sum < 2 ^ 256 := by
  calc (state.executed.map (Executed.value env)).sum
      ≤ (state.executed.map fun entry =>
          entry.gasOutput.txGasUsed.toNat * 2 ^ 128).sum := by
        apply List.sum_le_sum
        intro entry hmem
        obtain ⟨totals, hadmitted⟩ := admitted_of_mem hrun entry hmem
        apply Nat.mul_le_mul_left
        rw [← minerFee_eq hadmitted]
        exact Nat.le_of_lt entry.minerFee.isLt
    _ = (state.executed.map fun entry => entry.gasOutput.txGasUsed.toNat).sum * 2 ^ 128 :=
        List.sum_map_mul_right _ _ _
    _ ≤ 2 ^ 65 * 2 ^ 128 := by
        apply Nat.mul_le_mul_right
        exact Nat.le_of_lt (sum_txGasUsed_lt hexecutor hrun)
    _ < 2 ^ 256 := by norm_num

/-! ## The fees -/

/-- The fees of a run are the wrapped sum of what was added to them. -/
theorem totalFees_eq_ofNat (hrun : executeBest env bestTxs = .ok state) :
    state.totals.totalFees = BitVec.ofNat 256 (state.executed.map (Executed.value env)).sum := by
  have hword := @Outcome.word_foldl _ _ 256 Totals.add Totals.totalFees
    (fun entry : Executed T ε => entry.minerFee.toNat * entry.gasOutput.txGasUsed.toNat)
    (fun totals entry => by
      simp only [Totals.add, BitVec.ofNat_mul, BitVec.ofNat_toNat]) .zero state.executed
  have hvalues : (state.executed.map fun entry =>
      entry.minerFee.toNat * entry.gasOutput.txGasUsed.toNat) =
      state.executed.map (Executed.value env) := by
    apply List.map_congr_left
    intro entry hmem
    obtain ⟨totals, hadmitted⟩ := admitted_of_mem hrun entry hmem
    rw [minerFee_eq hadmitted, Nat.mul_comm]
    rfl
  rw [totals_eq hrun, hword, hvalues]
  exact BitVec.zero_add _

theorem totalFees_exact (hexecutor : ∀ turn ∈ bestTxs, turn.PaysForGas env)
    (hrun : executeBest env bestTxs = .ok state) :
    state.totals.totalFees.toNat = (state.executed.map (Executed.value env)).sum := by
  rw [totalFees_eq_ofNat hrun, BitVec.toNat_ofNat]
  exact Nat.mod_eq_of_lt (sum_value_lt hexecutor hrun)

/-- The fee is there whenever the executor succeeds. -/
theorem run_ne_panic (hexecutor : ∀ turn ∈ bestTxs, turn.PaysForGas env) (message : String) :
    executeBest env bestTxs ≠ .panic message := by
  intro hrun
  obtain ⟨turn, hmem, hnone, gasOutput, houtput⟩ := run_eq_panic hrun
  have hpays := (hexecutor turn hmem).baseFee gasOutput houtput
  have hsome := effectiveTipPerGas_isSome_iff.mpr hpays
  rw [hnone] at hsome
  simp at hsome

end Bounds

/-! ## Outcomes -/

theorem isBetterPayload_iff {T H : Type} {bestPayload : Option (CosmosBuiltPayload T H)}
    {newFees : U256} : isBetterPayload bestPayload newFees = true ↔
      ∀ best, bestPayload = some best → best.fees.toNat < newFees.toNat := by
  cases bestPayload with
  | none => simp [isBetterPayload]
  | some best => simp [isBetterPayload, BitVec.lt_def]

theorem buildEmptyPayload_ne_missing {H : Type} [TxHashRef T] [Encodable2718 T] [RlpBlockSize]
    [RlpEncodable H] [BlockHeader H] (b : CosmosPayloadBuilder T H ε) (config : PayloadConfig H) :
    b.buildEmptyPayload config ≠ .err .missingPayload := by
  intro hempty
  rcases Outcome.bind_eq_err_iff.mp hempty with hbuild | ⟨outcome, hbuild, hpayload⟩
  · exact defaultEthereumPayload_ne_missing _ _ _ _ _ hbuild
  · obtain ⟨payload, hsome⟩ := intoPayload_of_empty rfl hbuild
    rw [hsome] at hpayload
    simp [Outcome.okOr] at hpayload

/-- The fee of a transaction is there whenever its execution succeeds, and the fees of a run are
the exact sum of what its transactions are worth to the block producer. They alone decide
between an aborted build and a payload, whose fees they are. A build without transactions
and without a best payload does not end without a payload. -/
theorem block_value_is_the_tips (T H ε : Type) [TransactionAccessors T] [TxHashRef T]
    [Encodable2718 T] [RlpBlockSize] [RlpEncodable H] [BlockHeader H] :
    (∀ (env : Env) (bestTxs : List (Turn T ε)), (∀ turn ∈ bestTxs, turn.PaysForGas env) →
      (∀ message, executeBest env bestTxs ≠ .panic message) ∧
      ∀ state, executeBest env bestTxs = .ok state →
        state.totals.totalFees.toNat = (state.executed.map (Executed.value env)).sum ∧
        (state.executed.map Executed.turn).Sublist bestTxs ∧
        ∀ entry ∈ state.executed, entry.turn.execution = .ok entry.gasOutput) ∧
    (∀ (evmConfig : ConfigureEvm (CosmosEnvelope T) H ε) (client : Client ε)
      (builderConfig : EthereumBuilderConfig) (args : BuildArguments T H ε)
      (bestTxs : BestTransactionsAttributes → List (Turn T ε))
      (builder : BlockBuilder (CosmosEnvelope T) H ε) (state : State T ε),
      SetUp evmConfig client builderConfig args builder →
      executeBest (buildEnv client.chainSpec builder builderConfig args.config.attributes)
        (bestTxs (bestTransactionsAttributes builder)) = .ok state →
      let fees := state.totals.totalFees
      (∀ best, args.bestPayload = some best → fees.toNat ≤ best.fees.toNat →
        defaultEthereumPayload evmConfig client builderConfig args bestTxs =
          .ok (.aborted fees)) ∧
      ((∀ best, args.bestPayload = some best → best.fees.toNat < fees.toNat) →
        ∀ outcome, builder.finish (state.executed.map fun entry => entry.turn.tx)
            (knownStateRoot builderConfig args) = .ok outcome →
          ¬ (client.chainSpec.isOsakaActiveAtTimestamp args.config.attributes.timestamp = true ∧
            outcome.block.rlpLength > RlpBlockSize.max) →
          ∃ payload, defaultEthereumPayload evmConfig client builderConfig args bestTxs =
              .ok (.better payload) ∧ payload.fees = fees ∧ payload.block = outcome.block)) ∧
    (∀ (b : CosmosPayloadBuilder T H ε) (config : PayloadConfig H),
      b.buildEmptyPayload config ≠ .err .missingPayload) := by
  refine ⟨?_, ?_, buildEmptyPayload_ne_missing⟩
  · intro env bestTxs hexecutor
    refine ⟨run_ne_panic hexecutor, ?_⟩
    intro state hrun
    refine ⟨totalFees_exact hexecutor hrun, executed_sublist hrun, ?_⟩
    intro entry hmem
    obtain ⟨totals, hadmitted⟩ := admitted_of_mem hrun entry hmem
    exact hadmitted.execution
  · intro evmConfig client builderConfig args bestTxs builder state hsetUp hrun fees
    rw [defaultEthereumPayload_of_setUp hsetUp, buildPayload_of_run hrun]
    constructor
    · intro best hbest hle
      have hnot : isBetterPayload args.bestPayload state.totals.totalFees = false := by
        rw [Bool.eq_false_iff, ne_eq, isBetterPayload_iff]
        intro hall
        exact absurd (hall best hbest) (Nat.not_lt.mpr hle)
      rw [assemble_of_not_better hnot]
      rfl
    · intro hbest outcome hfinish hfits
      have hbetter := isBetterPayload_iff.mpr hbest
      rw [assemble_of_fits hbetter hfinish hfits]
      exact ⟨_, rfl, rfl, rfl⟩

namespace Sample

theorem stream_paysForGas : ∀ turn ∈ stream, turn.PaysForGas sampleEnv := by
  intro turn hmem
  have hgas := stream_gasWithinLimits turn hmem
  refine ⟨?_, hgas, ?_⟩
  · intro gasOutput houtput
    simp only [stream, List.mem_cons, List.not_mem_nil, or_false] at hmem
    rcases hmem with rfl | rfl | rfl
    · decide
    · simp [lateTurn] at houtput
    · decide
  · intro hfork
    exact absurd hfork (by decide)

end Sample

open Sample Primitives.Sample in
/-- The transfer pays 19 gwei, its whole surplus, and the blob transaction its priority fee. -/
theorem sample_fees_are_two_tips :
    ∃ state, executeBest sampleEnv stream = .ok state ∧
      state.totals.totalFees.toNat = 21000 * 19000000000 + 21000 * 100000000 := by
  refine ⟨_, rfl, ?_⟩
  have hvalue := block_value_is_the_tips Eth Header Unit
  have hexact := ((hvalue.1 sampleEnv stream stream_paysForGas).2 _ rfl).1
  rw [hexact]
  rfl

end RethCosmos.Payload
