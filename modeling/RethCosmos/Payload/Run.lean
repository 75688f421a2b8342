import RethCosmos.Payload.Builder

/-!
# Turns and runs

What a turn of the builder's loop can do: it leaves the accounts as they are, or enters one
transaction that passed all checks and was executed. Everything that holds of a run is
derived from this.
-/

namespace RethCosmos.Payload

open Encoding Rust Upstream Primitives CosmosAuth

variable {T ε : Type} [TransactionAccessors T] [TxHashRef T] [Encodable2718 T] [RlpBlockSize]
  {env : Env} {totals : Totals} {turn : Turn T ε} {state state' : State T ε}

/-! ## Checks -/

/-- What the checks have made sure of when a transaction is given to the executor. -/
structure Checked (env : Env) (totals : Totals) (turn : Turn T ε)
    (blobTxSidecar : Option BlobTransactionSidecarVariant) : Prop where
  gas : exceedsGasLimit env totals turn = none
  size : env.isOsaka = true → estimatedBlockSizeWithTx env totals turn ≤ RlpBlockSize.max
  blobs : ∀ n, turn.txBlobCount = some n → totals.blockBlobCount + n ≤ env.maxBlobCount
  no_sidecar : turn.txBlobCount = none → blobTxSidecar = none
  sidecar : ∀ n, turn.txBlobCount = some n → ∃ sidecar, blobTxSidecar = some sidecar ∧
    turn.getBlob (txHash turn.tx.tx) = .ok (some sidecar) ∧ sidecar.isEip7594 = env.isOsaka

/-- The errors that leave the loop: a cancellation, or an error of the blob store or the
executor. -/
def Stop.FromLoop : Stop ε → Prop
  | .cancelled => True
  | .failed (.other (.upstream _)) => True
  | .failed (.evmExecutionError _) => True
  | _ => False

omit [RlpBlockSize] in
theorem checkVariant_eq_ok {isOsaka : Bool} {sidecar sidecar' : BlobTransactionSidecarVariant}
    (hcheck : checkVariant isOsaka sidecar = .ok sidecar') :
    sidecar = sidecar' ∧ sidecar.isEip7594 = isOsaka := by
  unfold checkVariant at hcheck
  cases isOsaka with
  | true =>
      rw [if_pos rfl] at hcheck
      split at hcheck
      next hvariant => exact ⟨Except.ok.inj hcheck, hvariant⟩
      next => simp at hcheck
  | false =>
      rw [if_neg Bool.false_ne_true] at hcheck
      split at hcheck
      next hvariant =>
        exact ⟨Except.ok.inj hcheck, BlobTransactionSidecarVariant.isEip7594_eq_false hvariant⟩
      next => simp at hcheck

omit [TransactionAccessors T] [Encodable2718 T] [RlpBlockSize] in
theorem blobSidecarResult_cases (env : Env) (turn : Turn T ε) :
    (∃ e, blobSidecarResult env turn = .error (.failed (.other (.upstream e)))) ∨
      (∃ error, blobSidecarResult env turn = .ok (.error error)) ∨
      ∃ sidecar, blobSidecarResult env turn = .ok (.ok sidecar) ∧
        turn.getBlob (txHash turn.tx.tx) = .ok (some sidecar) ∧
        sidecar.isEip7594 = env.isOsaka := by
  unfold blobSidecarResult
  cases turn.getBlob (txHash turn.tx.tx) with
  | error e => exact Or.inl ⟨e, rfl⟩
  | ok blob =>
      cases blob with
      | none => exact Or.inr (Or.inl ⟨_, rfl⟩)
      | some stored =>
          cases hcheck : checkVariant env.isOsaka stored with
          | error error => exact Or.inr (Or.inl ⟨error, congrArg Except.ok hcheck⟩)
          | ok sidecar =>
              obtain ⟨rfl, hvariant⟩ := checkVariant_eq_ok hcheck
              exact Or.inr (Or.inr ⟨stored, congrArg Except.ok hcheck, rfl, hvariant⟩)

omit [Encodable2718 T] [RlpBlockSize] in
/-- A blob transaction is executed with its sidecar, any other without one. -/
theorem checkBlobs_cases (env : Env) (totals : Totals) (turn : Turn T ε) :
    (∃ error, checkBlobs env totals turn = .ok (.skip error)) ∨
      (∃ stop, checkBlobs env totals turn = .error stop ∧ stop.FromLoop) ∨
      (turn.txBlobCount = none ∧ checkBlobs env totals turn = .ok (.execute none)) ∨
      ∃ n sidecar, turn.txBlobCount = some n ∧ totals.blockBlobCount + n ≤ env.maxBlobCount ∧
        (turn.getBlob (txHash turn.tx.tx) = .ok (some sidecar) ∧
          sidecar.isEip7594 = env.isOsaka) ∧
        checkBlobs env totals turn = .ok (.execute (some sidecar)) := by
  unfold checkBlobs
  split
  next hnone => exact Or.inr (Or.inr (Or.inl ⟨hnone, rfl⟩))
  next n hsome =>
    split
    next => exact Or.inl ⟨_, rfl⟩
    next hblobs =>
      rcases blobSidecarResult_cases env turn with
        ⟨e, hresult⟩ | ⟨error, hresult⟩ | ⟨sidecar, hresult, hstored⟩
      · exact Or.inr (Or.inl ⟨.failed (.other (.upstream e)), by rw [hresult]; rfl, trivial⟩)
      · exact Or.inl ⟨.eip4844 error, by rw [hresult]; rfl⟩
      · exact Or.inr (Or.inr (Or.inr ⟨n, sidecar, hsome, Nat.not_lt.mp hblobs, hstored,
          by rw [hresult]; rfl⟩))

/-- The checks skip the transaction, leave the loop, or have made sure of all they check. -/
theorem checks_cases (env : Env) (totals : Totals) (turn : Turn T ε) :
    (∃ error, checks env totals turn = .ok (.skip error)) ∨
      (∃ stop, checks env totals turn = .error stop ∧ stop.FromLoop) ∨
      ∃ sidecar, checks env totals turn = .ok (.execute sidecar) ∧
        Checked env totals turn sidecar := by
  unfold checks
  split
  next => exact Or.inl ⟨_, rfl⟩
  next hgas =>
    split
    next => exact Or.inr (Or.inl ⟨_, rfl, trivial⟩)
    next =>
      split
      next => exact Or.inl ⟨_, rfl⟩
      next hfits =>
        have hsize : env.isOsaka = true →
            estimatedBlockSizeWithTx env totals turn ≤ RlpBlockSize.max := by
          intro hosaka
          exact Nat.not_lt.mp fun hover => hfits ⟨hosaka, hover⟩
        rcases checkBlobs_cases env totals turn with
          hskip | hstop | ⟨hnone, hverdict⟩ | ⟨n, sidecar, hsome, hblobs, hstored, hverdict⟩
        · exact Or.inl hskip
        · exact Or.inr (Or.inl hstop)
        · exact Or.inr (Or.inr ⟨_, hverdict, hgas, hsize, by simp [hnone], fun _ => rfl,
            by simp [hnone]⟩)
        · refine Or.inr (Or.inr ⟨_, hverdict, hgas, hsize, ?_, by simp [hsome], ?_⟩)
          · intro m hm
            obtain rfl := Option.some.inj (hsome.symm.trans hm)
            exact hblobs
          · intro m _
            exact ⟨sidecar, rfl, hstored⟩

theorem checked_of_execute {blobTxSidecar : Option BlobTransactionSidecarVariant}
    (hchecks : checks env totals turn = .ok (.execute blobTxSidecar)) :
    Checked env totals turn blobTxSidecar := by
  rcases checks_cases env totals turn with
    ⟨error, hskip⟩ | ⟨stop, hstop, _⟩ | ⟨sidecar, hexecute, hchecked⟩
  · simp [hskip] at hchecks
  · simp [hstop] at hchecks
  · rw [hexecute] at hchecks
    obtain rfl := Verdict.execute.inj (Except.ok.inj hchecks)
    exact hchecked

/-! ## Turns -/

/-- A transaction that is entered at these totals. -/
structure Admitted (env : Env) (totals : Totals) (executed : Executed T ε) : Prop where
  checks : checks env totals executed.turn = .ok (.execute executed.blobTxSidecar)
  execution : executed.turn.execution = .ok executed.gasOutput
  minerFee : effectiveTipPerGas executed.turn.tx.tx env.baseFee = some executed.minerFee

theorem Admitted.checked {executed : Executed T ε} (h : Admitted env totals executed) :
    Checked env totals executed.turn executed.blobTxSidecar :=
  checked_of_execute h.checks

omit [TxHashRef T] [RlpBlockSize] in
/-- What follows from each result of the executor. Only a success adds to the block, and only
if the fee is there. -/
theorem execute_cases (env : Env) (state : State T ε) (turn : Turn T ε)
    (blobTxSidecar : Option BlobTransactionSidecarVariant) :
    (∃ next, execute env state turn blobTxSidecar = .ok next ∧ next.totals = state.totals ∧
        next.executed = state.executed) ∨
      (∃ stop, execute env state turn blobTxSidecar = .err stop ∧ stop.FromLoop) ∨
      (∃ gasOutput message, turn.execution = .ok gasOutput ∧
        effectiveTipPerGas turn.tx.tx env.baseFee = none ∧
        execute env state turn blobTxSidecar = .panic message) ∨
      ∃ entry next, entry.turn = turn ∧ entry.blobTxSidecar = blobTxSidecar ∧
        turn.execution = .ok entry.gasOutput ∧
        effectiveTipPerGas turn.tx.tx env.baseFee = some entry.minerFee ∧
        execute env state turn blobTxSidecar = .ok next ∧
        next.totals = state.totals.add entry ∧ next.executed = state.executed ++ [entry] := by
  unfold execute
  split
  next =>
    split
    next => exact Or.inl ⟨_, rfl, rfl, rfl⟩
    next => exact Or.inl ⟨_, rfl, rfl, rfl⟩
  next => exact Or.inl ⟨_, rfl, rfl, rfl⟩
  next => exact Or.inr (Or.inl ⟨_, rfl, trivial⟩)
  next gasOutput houtput =>
    cases effectiveTipPerGas turn.tx.tx env.baseFee with
    | none => exact Or.inr (Or.inr (Or.inl ⟨gasOutput, _, houtput, rfl, rfl⟩))
    | some minerFee =>
        exact Or.inr (Or.inr (Or.inr ⟨⟨turn, blobTxSidecar, minerFee, gasOutput⟩, _, rfl, rfl,
          houtput, rfl, rfl, rfl, rfl⟩))

/-- What a turn can do: leave the accounts, enter its transaction, leave the loop, or panic. -/
theorem body_cases (env : Env) (state : State T ε) (turn : Turn T ε) :
    (∃ next, body env state turn = .ok next ∧ next.totals = state.totals ∧
        next.executed = state.executed) ∨
      (∃ stop, body env state turn = .err stop ∧ stop.FromLoop) ∨
      (∃ gasOutput message, turn.execution = .ok gasOutput ∧
        effectiveTipPerGas turn.tx.tx env.baseFee = none ∧
        body env state turn = .panic message) ∨
      ∃ entry next, entry.turn = turn ∧ Admitted env state.totals entry ∧
        body env state turn = .ok next ∧ next.totals = state.totals.add entry ∧
        next.executed = state.executed ++ [entry] := by
  rcases checks_cases env state.totals turn with
    ⟨error, hskip⟩ | ⟨stop, hstop, hloop⟩ | ⟨sidecar, hchecks, _⟩
  · exact Or.inl ⟨state.markInvalid turn error, by rw [body, hskip]; rfl, rfl, rfl⟩
  · exact Or.inr (Or.inl ⟨stop, by rw [body, hstop]; rfl, hloop⟩)
  · have hbody : body env state turn = execute env state turn sidecar := by
      rw [body, hchecks]
      rfl
    rw [hbody]
    rcases execute_cases env state turn sidecar with
      hsame | hleaves | hpanics | ⟨entry, next, rfl, rfl, houtput, hfee, hnext⟩
    · exact Or.inl hsame
    · exact Or.inr (Or.inl hleaves)
    · exact Or.inr (Or.inr (Or.inl hpanics))
    · exact Or.inr (Or.inr (Or.inr ⟨entry, next, rfl, ⟨hchecks, houtput, hfee⟩, hnext⟩))

/-- The two things a turn can do that does not leave the loop. -/
theorem body_eq_ok (hbody : body env state turn = .ok state') :
    (state'.totals = state.totals ∧ state'.executed = state.executed) ∨
      ∃ executed, Admitted env state.totals executed ∧ executed.turn = turn ∧
        state'.totals = state.totals.add executed ∧
        state'.executed = state.executed ++ [executed] := by
  rcases body_cases env state turn with
    ⟨next, hnext, hsame⟩ | ⟨stop, hstop, _⟩ | ⟨_, _, _, _, hpanic⟩ |
      ⟨entry, next, hturn, hadmitted, hnext, hentered⟩
  · obtain rfl := Outcome.ok.inj (hnext.symm.trans hbody)
    exact Or.inl hsame
  · simp [hstop] at hbody
  · simp [hpanic] at hbody
  · obtain rfl := Outcome.ok.inj (hnext.symm.trans hbody)
    exact Or.inr ⟨entry, hadmitted, hturn, hentered⟩

/-- Without a success of the executor behind all checks, a turn changes no totals. -/
theorem body_of_not_executed (hbody : body env state turn = .ok state')
    (hskipped : ¬ ((∃ sidecar, checks env state.totals turn = .ok (.execute sidecar)) ∧
      ∃ gasOutput, turn.execution = .ok gasOutput)) :
    state'.totals = state.totals ∧ state'.executed = state.executed := by
  rcases body_eq_ok hbody with hsame | ⟨executed, hadmitted, rfl, _, _⟩
  · exact hsame
  · exact absurd ⟨⟨_, hadmitted.checks⟩, _, hadmitted.execution⟩ hskipped

/-! ## Ways out of the loop -/

theorem run_eq_err {bestTxs : List (Turn T ε)} {stop : Stop ε}
    (hrun : executeBest env bestTxs = .err stop) : stop.FromLoop := by
  obtain ⟨state, turn, _, hbody⟩ := Outcome.exists_of_loop_eq_err hrun
  rcases body_cases env state turn with
    ⟨_, hnext, _⟩ | ⟨_, hstop, hloop⟩ | ⟨_, _, _, _, hpanic⟩ | ⟨_, _, _, _, hnext, _⟩
  · simp [hnext] at hbody
  · obtain rfl := Outcome.err.inj (hstop.symm.trans hbody)
    exact hloop
  · simp [hpanic] at hbody
  · simp [hnext] at hbody

/-- The panic of a run is the one of a fee that is not there, after a successful execution. -/
theorem run_eq_panic {bestTxs : List (Turn T ε)} {message : String}
    (hrun : executeBest env bestTxs = .panic message) :
    ∃ turn ∈ bestTxs, effectiveTipPerGas turn.tx.tx env.baseFee = none ∧
      ∃ gasOutput, turn.execution = .ok gasOutput := by
  obtain ⟨state, turn, hmem, hbody⟩ := Outcome.exists_of_loop_eq_panic hrun
  rcases body_cases env state turn with
    ⟨_, hnext, _⟩ | ⟨_, hstop, _⟩ | ⟨gasOutput, _, houtput, hnone, _⟩ | ⟨_, _, _, _, hnext, _⟩
  · simp [hnext] at hbody
  · simp [hstop] at hbody
  · exact ⟨turn, hmem, hnone, gasOutput, houtput⟩
  · simp [hnext] at hbody

/-! ## Runs -/

theorem body_keepsAccounts (env : Env) :
    Outcome.KeepsAccounts (body env) (State.executed (T := T) (ε := ε)) Executed.turn State.totals
      Totals.add where
  turn hbody := by
    rcases body_eq_ok hbody with hsame | ⟨executed, _, hturn, htotals, hexecuted⟩
    · exact Or.inl ⟨hsame.2, hsame.1⟩
    · exact Or.inr ⟨executed, hturn, hexecuted, htotals⟩

/-- The totals are those of the transactions in the block. -/
theorem totals_eq {bestTxs : List (Turn T ε)} (hrun : executeBest env bestTxs = .ok state) :
    state.totals = state.executed.foldl Totals.add .zero :=
  (body_keepsAccounts env).total_eq rfl hrun

/-- The block has transactions of the stream, in its order. -/
theorem executed_sublist {bestTxs : List (Turn T ε)} (hrun : executeBest env bestTxs = .ok state) :
    (state.executed.map Executed.turn).Sublist bestTxs := by
  obtain ⟨made, hmade, hsub⟩ := (body_keepsAccounts env).entries_sublist hrun
  rw [hmade]
  exact hsub

/-- Whatever every admission preserves holds of each run. -/
theorem run_invariant {bestTxs : List (Turn T ε)} {I : Totals → List (Executed T ε) → Prop}
    (hstart : I .zero [])
    (hpush : ∀ totals executed entry, I totals executed → Admitted env totals entry →
      entry.turn ∈ bestTxs → I (totals.add entry) (executed ++ [entry]))
    (hrun : executeBest env bestTxs = .ok state) : I state.totals state.executed := by
  refine Outcome.loop_invariant (I := fun s => I s.totals s.executed) ?_ hstart hrun
  intro s turn s' hmem hs hbody
  rcases body_eq_ok hbody with ⟨htotals, hexecuted⟩ | ⟨entry, hentry, rfl, htotals, hexecuted⟩
  · rw [htotals, hexecuted]
    exact hs
  · rw [htotals, hexecuted]
    exact hpush _ _ entry hs hentry hmem

theorem admitted_of_mem {bestTxs : List (Turn T ε)} (hrun : executeBest env bestTxs = .ok state) :
    ∀ entry ∈ state.executed, ∃ totals, Admitted env totals entry := by
  refine run_invariant (I := fun _ executed => ∀ entry ∈ executed, ∃ totals,
    Admitted env totals entry) (by simp) ?_ hrun
  intro totals executed entry hall hentry _ other hmem
  rcases List.mem_append.mp hmem with hmem | hmem
  · exact hall other hmem
  · obtain rfl := List.mem_singleton.mp hmem
    exact ⟨totals, hentry⟩

/-! ## A stream -/

namespace Sample

open Primitives.Sample

def poolEntry (tx : CosmosEnvelope PooledEth) (signer : Address) :
    CosmosPoolTransaction Eth BlobTransactionSidecarVariant :=
  CosmosPoolTransaction.fromPooled ⟨tx, signer⟩

def transferTurn : Turn Eth Unit where
  poolTx := poolEntry (.ethereum .transfer) Legacy.sender
  isCancelled := false
  getBlob _ := .ok none
  execution := .ok ⟨21000, 0⟩
  blockRegularGasUsed := some 21000

/-- The nonce of this transaction is too low. -/
def lateTurn : Turn Eth Unit where
  poolTx := poolEntry (.cosmos signed) operation.sender
  isCancelled := false
  getBlob _ := .ok none
  execution := .error (.invalidTx true)
  blockRegularGasUsed := none

def blobTurn : Turn Eth Unit where
  poolTx := poolEntry (.ethereum (.blob sidecar)) Legacy.sender
  isCancelled := false
  getBlob _ := .ok (some sidecar)
  execution := .ok ⟨21000, 0⟩
  blockRegularGasUsed := some 21000

def stream : List (Turn Eth Unit) := [transferTurn, lateTurn, blobTurn]

/-- The locals of a block before Osaka. -/
def sampleEnv : Env where
  isAmsterdam := false
  isOsaka := false
  blockGasLimit := 30000000
  txGasLimitCap := 16777216
  baseFee := 1000000000
  maxBlobCount := 6
  withdrawalsRlpLength := 1

scoped instance rlpBlockSize : RlpBlockSize where
  max := 8388608

end Sample

end RethCosmos.Payload
