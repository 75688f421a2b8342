import RethCosmos.Payload.Run

/-!
# Gas of a build

Before Amsterdam a block has one gas limit for the gas of its transactions. Under Amsterdam
regular gas and state gas are counted on their own, each against the block gas limit.
-/

namespace RethCosmos.Payload

open Encoding Rust Upstream Primitives CosmosAuth

variable {T ε : Type} [TransactionAccessors T] {env : Env} {totals : Totals} {turn : Turn T ε}

/-- What is expected of an executor that reports a success. -/
structure Turn.GasWithinLimits (env : Env) (turn : Turn T ε) : Prop where
  tx : ∀ gasOutput, turn.execution = .ok gasOutput →
    gasOutput.txGasUsed.toNat ≤ turn.gasLimit.toNat
  regular : ∀ gasOutput, turn.execution = .ok gasOutput →
    turn.txRegularGasUsed.toNat ≤ min turn.gasLimit.toNat env.txGasLimitCap.toNat
  state : ∀ gasOutput, turn.execution = .ok gasOutput →
    gasOutput.stateGasUsed.toNat ≤ turn.gasLimit.toNat

theorem Turn.GasWithinLimits.of_success {gasOutput : GasOutput}
    (houtput : turn.execution = .ok gasOutput)
    (htx : gasOutput.txGasUsed.toNat ≤ turn.gasLimit.toNat)
    (hregular : turn.txRegularGasUsed.toNat ≤ min turn.gasLimit.toNat env.txGasLimitCap.toNat)
    (hstate : gasOutput.stateGasUsed.toNat ≤ turn.gasLimit.toNat) :
    turn.GasWithinLimits env := by
  constructor
  · intro output hok
    obtain rfl := Except.ok.inj (houtput.symm.trans hok)
    exact htx
  · intro _ _
    exact hregular
  · intro output hok
    obtain rfl := Except.ok.inj (houtput.symm.trans hok)
    exact hstate

theorem Turn.GasWithinLimits.of_error {e : BlockExecutionError ε}
    (herror : turn.execution = .error e) : turn.GasWithinLimits env := by
  constructor
  · intro output hok
    simp [herror] at hok
  · intro output hok
    simp [herror] at hok
  · intro output hok
    simp [herror] at hok

/-- The gas that a transaction may use is left in the block. -/
structure FitsBlockGas (env : Env) (totals : Totals) (turn : Turn T ε) : Prop where
  beforeAmsterdam : env.isAmsterdam = false →
    totals.cumulativeTxGasUsed.toNat + turn.gasLimit.toNat ≤ env.blockGasLimit.toNat
  regular : env.isAmsterdam = true →
    totals.blockRegularGasUsed.toNat + min turn.gasLimit.toNat env.txGasLimitCap.toNat ≤
      env.blockGasLimit.toNat
  state : env.isAmsterdam = true →
    totals.blockStateGasUsed.toNat + turn.gasLimit.toNat ≤ env.blockGasLimit.toNat

/-- The counters of the fork hold the exact gas of the transactions in the block, and no more
than the block has. -/
structure WithinBlockGas (env : Env) (totals : Totals) (executed : List (Executed T ε)) :
    Prop where
  beforeAmsterdam : env.isAmsterdam = false →
    Counts env.blockGasLimit totals.cumulativeTxGasUsed
      (executed.map fun entry => entry.gasOutput.txGasUsed.toNat)
  regular : env.isAmsterdam = true →
    Counts env.blockGasLimit totals.blockRegularGasUsed
      (executed.map fun entry => entry.turn.txRegularGasUsed.toNat)
  state : env.isAmsterdam = true →
    Counts env.blockGasLimit totals.blockStateGasUsed
      (executed.map fun entry => entry.gasOutput.stateGasUsed.toNat)

/-! ## The check -/

/-- The check passes when the gas limit is within what is left. -/
theorem exceedsGasLimit_eq_none_iff :
    exceedsGasLimit env totals turn = none ↔
      if env.isAmsterdam then
        min turn.gasLimit.toNat env.txGasLimitCap.toNat ≤
            env.blockGasLimit.toNat - totals.blockRegularGasUsed.toNat ∧
          turn.gasLimit.toNat ≤ env.blockGasLimit.toNat - totals.blockStateGasUsed.toNat
      else turn.gasLimit.toNat ≤ env.blockGasLimit.toNat - totals.cumulativeTxGasUsed.toNat := by
  unfold exceedsGasLimit
  cases env.isAmsterdam with
  | true =>
      simp only [if_true, gt_iff_lt, BitVec.lt_def, toNat_saturatingSub, toNat_umin]
      split
      next hregular => simp [Nat.not_le.mpr hregular]
      next hregular =>
        rw [Nat.not_lt] at hregular
        split
        next hstate => simp [Nat.not_le.mpr hstate]
        next hstate => simp [hregular, Nat.not_lt.mp hstate]
  | false =>
      simp only [Bool.false_eq_true, if_false, gt_iff_lt, BitVec.lt_def, toNat_saturatingSub]
      split
      next hover => simp [Nat.not_le.mpr hover]
      next hfits => simp [Nat.not_lt.mp hfits]

theorem fitsBlockGas_of_check {executed : List (Executed T ε)}
    (hwithin : WithinBlockGas env totals executed)
    (hcheck : exceedsGasLimit env totals turn = none) : FitsBlockGas env totals turn := by
  rw [exceedsGasLimit_eq_none_iff] at hcheck
  constructor
  · intro hfork
    have hle := (hwithin.beforeAmsterdam hfork).le
    simp only [hfork, Bool.false_eq_true, if_false] at hcheck
    omega
  · intro hfork
    have hle := (hwithin.regular hfork).le
    simp only [hfork, if_true] at hcheck
    omega
  · intro hfork
    have hle := (hwithin.state hfork).le
    simp only [hfork, if_true] at hcheck
    omega

/-! ## The counters -/

section

variable [TxHashRef T] [Encodable2718 T] [RlpBlockSize]

theorem WithinBlockGas.push {executed : List (Executed T ε)} {entry : Executed T ε}
    (hwithin : WithinBlockGas env totals executed) (hadmitted : Admitted env totals entry)
    (hgas : entry.turn.GasWithinLimits env) :
    WithinBlockGas env (totals.add entry) (executed ++ [entry]) := by
  have hfits := fitsBlockGas_of_check hwithin hadmitted.checked.gas
  have htx := hgas.tx _ hadmitted.execution
  have hregular := hgas.regular _ hadmitted.execution
  have hstate := hgas.state _ hadmitted.execution
  constructor
  · intro hfork
    have hroom := hfits.beforeAmsterdam hfork
    rw [List.map_append]
    apply (hwithin.beforeAmsterdam hfork).add
    omega
  · intro hfork
    have hroom := hfits.regular hfork
    rw [List.map_append]
    apply (hwithin.regular hfork).add
    omega
  · intro hfork
    have hroom := hfits.state hfork
    rw [List.map_append]
    apply (hwithin.state hfork).add
    omega

theorem withinBlockGas {bestTxs : List (Turn T ε)} {state : State T ε}
    (hgas : ∀ turn ∈ bestTxs, turn.GasWithinLimits env)
    (hrun : executeBest env bestTxs = .ok state) :
    WithinBlockGas env state.totals state.executed := by
  refine run_invariant (I := WithinBlockGas env) ?_ ?_ hrun
  · exact ⟨fun _ => Counts.zero _, fun _ => Counts.zero _, fun _ => Counts.zero _⟩
  · intro totals executed entry hwithin hadmitted hmem
    exact hwithin.push hadmitted (hgas _ hmem)

end

/-- In every state the loop visits the counters of the fork are exact and within the block gas
limit. A transaction is given to the executor only if the gas it may use is left, and one
that is not executed with success changes no totals. -/
theorem builder_commits_no_more_gas_than_the_block_has (T ε : Type) [TransactionAccessors T]
    [TxHashRef T] [Encodable2718 T] [RlpBlockSize] (env : Env) (bestTxs : List (Turn T ε))
    (hgas : ∀ turn ∈ bestTxs, turn.GasWithinLimits env) (front back : List (Turn T ε))
    (hsplit : bestTxs = front ++ back) (state : State T ε)
    (hvisited : executeBest env front = .ok state) :
    WithinBlockGas env state.totals state.executed ∧
    ∀ turn rest, back = turn :: rest →
      (∀ sidecar, checks env state.totals turn = .ok (.execute sidecar) →
        FitsBlockGas env state.totals turn) ∧
      ∀ state', body env state turn = .ok state' →
        ¬ ((∃ sidecar, checks env state.totals turn = .ok (.execute sidecar)) ∧
          ∃ gasOutput, turn.execution = .ok gasOutput) →
        state'.totals = state.totals := by
  subst hsplit
  have hwithin : WithinBlockGas env state.totals state.executed := by
    apply withinBlockGas _ hvisited
    intro turn hmem
    exact hgas turn (List.mem_append_left _ hmem)
  refine ⟨hwithin, ?_⟩
  intro turn rest hback
  constructor
  · intro sidecar hchecks
    exact fitsBlockGas_of_check hwithin (checked_of_execute hchecks).gas
  · intro state' hbody hskipped
    exact (body_of_not_executed hbody hskipped).1

namespace Sample

theorem stream_gasWithinLimits : ∀ turn ∈ stream, turn.GasWithinLimits sampleEnv := by
  intro turn hmem
  simp only [stream, List.mem_cons, List.not_mem_nil, or_false] at hmem
  rcases hmem with rfl | rfl | rfl
  · exact Turn.GasWithinLimits.of_success rfl (by decide) (by decide) (by decide)
  · exact Turn.GasWithinLimits.of_error rfl
  · exact Turn.GasWithinLimits.of_success rfl (by decide) (by decide) (by decide)

end Sample

open Sample in
/-- Behind the transfer, the transaction with the low nonce changes nothing. -/
theorem sample_late_transaction_changes_nothing :
    ∃ state, executeBest sampleEnv [transferTurn] = .ok state ∧
      WithinBlockGas sampleEnv state.totals state.executed ∧
      ∀ state', body sampleEnv state lateTurn = .ok state' → state'.totals = state.totals := by
  refine ⟨_, rfl, ?_⟩
  obtain ⟨hwithin, hnext⟩ := builder_commits_no_more_gas_than_the_block_has Eth Unit sampleEnv
    stream stream_gasWithinLimits [transferTurn] [lateTurn, blobTurn] rfl _ rfl
  refine ⟨hwithin, ?_⟩
  intro state' hbody
  apply (hnext lateTurn [blobTurn] rfl).2 state' hbody
  intro hexecuted
  obtain ⟨_, gasOutput, houtput⟩ := hexecuted
  simp [lateTurn] at houtput

end RethCosmos.Payload
