import RethCosmos.Payload.Blobs
import RethCosmos.Rust.Stream

/-!
# Fates

Each transaction of the stream has one fate: it enters the block, it is rejected for a
reason that the stream is told, or it is passed over because its nonce is used up. A run of
the loop is the same as a sequence of fates, each justified by the totals it finds, and all
that the loop keeps can be read off the sequence.
-/

namespace RethCosmos.Payload

open Encoding Rust Upstream Primitives CosmosAuth

variable {T ε : Type}

/-! ## What can become of a transaction -/

inductive Fate (T ε : Type)
  | included (entry : Executed T ε) (skipsBlobs : Bool)
  | rejected (error : InvalidPoolTransactionError)
  | nonceTooLow

namespace Fate

/-- The entry in the block, if there is one. -/
def toEntry : Fate T ε → Option (Executed T ε)
  | included entry _ => some entry
  | rejected _ => none
  | nonceTooLow => none

/-- What the stream is told. -/
def calls (fate : Fate T ε) (turn : Turn T ε) : List (StreamCall T) :=
  match fate with
  | included _ skipsBlobs => if skipsBlobs then [.skipBlobs] else []
  | rejected error => [.markInvalid turn.poolTx error]
  | nonceTooLow => []

end Fate

/-- The calls of a turn. -/
def State.newCalls (before after : State T ε) : List (StreamCall T) :=
  after.calls.drop before.calls.length

section

variable [TransactionAccessors T] [TxHashRef T] [Encodable2718 T] [RlpBlockSize]
  {env : Env} {totals : Totals} {turn : Turn T ε} {state state' : State T ε}

/-- The checks in front of those of the blobs let the transaction pass. -/
structure Fits (env : Env) (totals : Totals) (turn : Turn T ε) : Prop where
  gas : exceedsGasLimit env totals turn = none
  live : turn.isCancelled = false
  size : ¬ (env.isOsaka = true ∧ estimatedBlockSizeWithTx env totals turn > RlpBlockSize.max)

/-- The reasons to reject a transaction, each for what the totals leave of the block, for what
the blob store has, or for what the executor says of a transaction that passed all checks. -/
inductive Rejects (env : Env) (totals : Totals) (turn : Turn T ε) :
    InvalidPoolTransactionError → Prop
  | gas {limit available : U64}
      (hexceeds : exceedsGasLimit env totals turn = some (limit, available)) :
      Rejects env totals turn (.exceedsGasLimit limit available)
  | size (hgas : exceedsGasLimit env totals turn = none) (hlive : turn.isCancelled = false)
      (hosaka : env.isOsaka = true)
      (hover : estimatedBlockSizeWithTx env totals turn > RlpBlockSize.max) :
      Rejects env totals turn
        (.oversizedData (estimatedBlockSizeWithTx env totals turn) RlpBlockSize.max)
  | blobs {n : Nat} (hfits : Fits env totals turn) (hcount : turn.txBlobCount = some n)
      (hover : totals.blockBlobCount + n > env.maxBlobCount) :
      Rejects env totals turn
        (.eip4844 (.tooManyEip4844Blobs (totals.blockBlobCount + n) env.maxBlobCount))
  | missing {n : Nat} (hfits : Fits env totals turn) (hcount : turn.txBlobCount = some n)
      (hroom : totals.blockBlobCount + n ≤ env.maxBlobCount)
      (hnone : turn.getBlob (txHash turn.tx.tx) = .ok none) :
      Rejects env totals turn (.eip4844 .missingEip4844BlobSidecar)
  | variant {n : Nat} {sidecar : BlobTransactionSidecarVariant} (hfits : Fits env totals turn)
      (hcount : turn.txBlobCount = some n) (hroom : totals.blockBlobCount + n ≤ env.maxBlobCount)
      (hstored : turn.getBlob (txHash turn.tx.tx) = .ok (some sidecar))
      (hother : sidecar.isEip7594 = !env.isOsaka) :
      Rejects env totals turn
        (.eip4844 (if env.isOsaka then .unexpectedEip4844SidecarAfterOsaka
          else .unexpectedEip7594SidecarBeforeOsaka))
  | invalid {blobTxSidecar : Option BlobTransactionSidecarVariant}
      (hchecks : checks env totals turn = .ok (.execute blobTxSidecar))
      (hinvalid : turn.execution = .error (.invalidTx false)) :
      Rejects env totals turn (.consensus .txTypeNotSupported)
  | executor {blobTxSidecar : Option BlobTransactionSidecarVariant} {limit available : U64}
      (hchecks : checks env totals turn = .ok (.execute blobTxSidecar))
      (hgas : turn.execution =
        .error (.transactionGasLimitMoreThanAvailableBlockGas limit available)) :
      Rejects env totals turn (.exceedsGasLimit limit available)

/-- A turn with the fate of its transaction. -/
inductive Turned (env : Env) : State T ε → Turn T ε → Fate T ε → State T ε → Prop
  | included {s : State T ε} {entry : Executed T ε} (hadmitted : Admitted env s.totals entry) :
      Turned env s entry.turn
        (.included entry (entry.turn.txBlobCount.any
          fun n => s.totals.blockBlobCount + n = env.maxBlobCount))
        { totals := s.totals.add entry
          executed := s.executed ++ [entry]
          calls := s.calls ++ blobCalls env s.totals entry.turn }
  | rejected {s : State T ε} {turn : Turn T ε} {error : InvalidPoolTransactionError}
      (hrejects : Rejects env s.totals turn error) :
      Turned env s turn (.rejected error) (s.markInvalid turn error)
  | nonceTooLow {s : State T ε} {turn : Turn T ε}
      {blobTxSidecar : Option BlobTransactionSidecarVariant}
      (hchecks : checks env s.totals turn = .ok (.execute blobTxSidecar))
      (hlow : turn.execution = .error (.invalidTx true)) :
      Turned env s turn .nonceTooLow s

/-! ## Turns -/

omit [TxHashRef T] [Encodable2718 T] [RlpBlockSize] in
theorem checkVariant_eq_error_iff {isOsaka : Bool} {sidecar : BlobTransactionSidecarVariant}
    {error : Eip4844PoolTransactionError} :
    checkVariant isOsaka sidecar = .error error ↔ sidecar.isEip7594 = (!isOsaka) ∧
      error = if isOsaka then .unexpectedEip4844SidecarAfterOsaka
        else .unexpectedEip7594SidecarBeforeOsaka := by
  cases isOsaka <;> cases sidecar <;>
    simp [checkVariant, BlobTransactionSidecarVariant.isEip7594,
      BlobTransactionSidecarVariant.isEip4844, eq_comm]

theorem Fits.checks_eq (hfits : Fits env totals turn) :
    checks env totals turn = checkBlobs env totals turn := by
  simp only [checks, hfits.gas, hfits.live, hfits.size, Bool.false_eq_true, if_false]

omit [Encodable2718 T] [RlpBlockSize] in
theorem checkBlobs_of_room {n : Nat} (hcount : turn.txBlobCount = some n)
    (hroom : totals.blockBlobCount + n ≤ env.maxBlobCount) :
    checkBlobs env totals turn = do
      match ← blobSidecarResult env turn with
      | .ok sidecar => return .execute (some sidecar)
      | .error error => return .skip (.eip4844 error) := by
  simp only [checkBlobs, hcount]
  exact if_neg (Nat.not_lt.mpr hroom)

/-- A blob check that fails gives one of the reasons. -/
theorem Fits.rejects_of_checkBlobs {error : InvalidPoolTransactionError}
    (hfits : Fits env totals turn) (hskip : checkBlobs env totals turn = .ok (.skip error)) :
    Rejects env totals turn error := by
  cases hcount : turn.txBlobCount with
  | none => simp [checkBlobs, hcount] at hskip
  | some n =>
      by_cases hover : totals.blockBlobCount + n > env.maxBlobCount
      · simp only [checkBlobs, hcount, if_pos hover] at hskip
        obtain rfl := Verdict.skip.inj (Except.ok.inj hskip)
        exact .blobs hfits hcount hover
      · have hroom := Nat.not_lt.mp hover
        rw [checkBlobs_of_room hcount hroom] at hskip
        -- an error of the blob store ends the build, so it is not a reason
        cases hblob : turn.getBlob (txHash turn.tx.tx) with
        | error e => simp [blobSidecarResult, hblob, Except.mapError] at hskip
        | ok blob =>
            simp only [blobSidecarResult, hblob, Except.mapError, ok_bind] at hskip
            cases blob with
            | none =>
                obtain rfl := Verdict.skip.inj (Except.ok.inj hskip)
                exact .missing hfits hcount hroom hblob
            | some sidecar =>
                simp only [pure_eq_ok, ok_bind] at hskip
                cases hcheck : checkVariant env.isOsaka sidecar with
                | ok sidecar' => simp [hcheck] at hskip
                | error reason =>
                    rw [hcheck] at hskip
                    obtain ⟨hother, rfl⟩ := checkVariant_eq_error_iff.mp hcheck
                    obtain rfl := Verdict.skip.inj (Except.ok.inj hskip)
                    exact .variant hfits hcount hroom hblob hother

/-- A check that fails gives one of the reasons. -/
theorem rejects_of_skip {error : InvalidPoolTransactionError}
    (hskip : checks env totals turn = .ok (.skip error)) : Rejects env totals turn error := by
  cases hgas : exceedsGasLimit env totals turn with
  | some pair =>
      simp only [checks, hgas] at hskip
      obtain rfl := Verdict.skip.inj (Except.ok.inj hskip)
      exact .gas hgas
  | none =>
      cases hlive : turn.isCancelled with
      | true => simp [checks, hgas, hlive] at hskip
      | false =>
          by_cases hsize : env.isOsaka = true ∧
              estimatedBlockSizeWithTx env totals turn > RlpBlockSize.max
          · simp only [checks, hgas, hlive, Bool.false_eq_true, if_false, if_pos hsize] at hskip
            obtain rfl := Verdict.skip.inj (Except.ok.inj hskip)
            exact .size hgas hlive hsize.1 hsize.2
          · have hfits : Fits env totals turn := ⟨hgas, hlive, hsize⟩
            rw [hfits.checks_eq] at hskip
            exact hfits.rejects_of_checkBlobs hskip

/-- Each reason is one that the turn gives to the stream. -/
theorem Rejects.body_eq {error : InvalidPoolTransactionError}
    (hrejects : Rejects env state.totals turn error) :
    body env state turn = .ok (state.markInvalid turn error) := by
  -- the five reasons of the checks, before the two of the executor
  have hskipped : ∀ {error}, checks env state.totals turn = .ok (.skip error) →
      body env state turn = .ok (state.markInvalid turn error) := by
    intro error hskip
    rw [body, hskip]
    rfl
  cases hrejects with
  | gas hexceeds =>
      apply hskipped
      simp only [checks, hexceeds]
  | size hgas hlive hosaka hover =>
      apply hskipped
      simp only [checks, hgas, hlive, Bool.false_eq_true, if_false]
      exact if_pos ⟨hosaka, hover⟩
  | blobs hfits hcount hover =>
      apply hskipped
      rw [hfits.checks_eq]
      simp only [checkBlobs, hcount, if_pos hover]
  | missing hfits hcount hroom hnone =>
      apply hskipped
      rw [hfits.checks_eq, checkBlobs_of_room hcount hroom]
      simp only [blobSidecarResult, hnone, Except.mapError, ok_bind, pure_eq_ok]
  | variant hfits hcount hroom hstored hother =>
      apply hskipped
      rw [hfits.checks_eq, checkBlobs_of_room hcount hroom]
      simp only [blobSidecarResult, hstored, Except.mapError, ok_bind, pure_eq_ok,
        checkVariant_eq_error_iff.mpr ⟨hother, rfl⟩]
  | invalid hchecks hinvalid =>
      rw [body, hchecks]
      simp only [Outcome.ofExcept, Outcome.ok_bind, execute, hinvalid]
      rfl
  | executor hchecks hgas =>
      rw [body, hchecks]
      simp only [Outcome.ofExcept, Outcome.ok_bind, execute, hgas]

omit [TxHashRef T] [Encodable2718 T] [RlpBlockSize] in
theorem blobCalls_eq (env : Env) (totals : Totals) (turn : Turn T ε) (entry : Executed T ε) :
    blobCalls env totals turn =
      (Fate.included entry (turn.txBlobCount.any
        fun n => totals.blockBlobCount + n = env.maxBlobCount)).calls turn := by
  cases hcount : turn.txBlobCount with
  | none => simp [blobCalls, Fate.calls, hcount]
  | some n => simp [blobCalls, Fate.calls, hcount]

/-- What the executor says of a transaction that passed all checks decides its fate. -/
theorem exists_fate_of_execute {blobTxSidecar : Option BlobTransactionSidecarVariant}
    (hchecks : checks env state.totals turn = .ok (.execute blobTxSidecar))
    (hexecute : execute env state turn blobTxSidecar = .ok state') :
    ∃ fate, Turned env state turn fate state' := by
  unfold execute at hexecute
  split at hexecute
  next nonceTooLow hinvalid =>
    cases nonceTooLow with
    | true =>
        obtain rfl := Outcome.ok.inj hexecute
        exact ⟨_, .nonceTooLow hchecks hinvalid⟩
    | false =>
        obtain rfl := Outcome.ok.inj hexecute
        exact ⟨_, .rejected (.invalid hchecks hinvalid)⟩
  next limit available hgas =>
    obtain rfl := Outcome.ok.inj hexecute
    exact ⟨_, .rejected (.executor hchecks hgas)⟩
  next => simp at hexecute
  next gasOutput houtput =>
    cases hfee : effectiveTipPerGas turn.tx.tx env.baseFee with
    | none => simp [hfee, Outcome.expectSome] at hexecute
    | some minerFee =>
        rw [hfee] at hexecute
        obtain rfl := Outcome.ok.inj hexecute
        have hadmitted : Admitted env state.totals ⟨turn, blobTxSidecar, minerFee, gasOutput⟩ :=
          ⟨hchecks, houtput, hfee⟩
        exact ⟨_, .included hadmitted⟩

/-- A turn that stays in the loop gives its transaction a fate. -/
theorem exists_fate (hbody : body env state turn = .ok state') :
    ∃ fate, Turned env state turn fate state' := by
  cases hchecks : checks env state.totals turn with
  | error stop => simp [body, hchecks, Outcome.ofExcept] at hbody
  | ok verdict =>
      rw [body, hchecks] at hbody
      cases verdict with
      | skip error =>
          obtain rfl := Outcome.ok.inj hbody
          exact ⟨_, .rejected (rejects_of_skip hchecks)⟩
      | execute blobTxSidecar => exact exists_fate_of_execute hchecks hbody

/-- Every fate is that of a turn. -/
theorem Turned.body_eq {fate : Fate T ε} (hturned : Turned env state turn fate state') :
    body env state turn = .ok state' := by
  cases hturned with
  | @included entry hadmitted =>
      rw [body, hadmitted.checks]
      simp only [Outcome.ofExcept, Outcome.ok_bind, execute, hadmitted.execution,
        hadmitted.minerFee, Outcome.expectSome, Outcome.pure_eq_ok]
  | rejected hrejects => exact hrejects.body_eq
  | nonceTooLow hchecks hlow =>
      rw [body, hchecks]
      simp only [Outcome.ofExcept, Outcome.ok_bind, execute, hlow, if_true]

theorem Turned.calls_eq {fate : Fate T ε}
    (hturned : Turned env state turn fate state') :
    state'.calls = state.calls ++ fate.calls turn := by
  cases hturned with
  | @included entry hadmitted => exact congrArg (state.calls ++ ·) (blobCalls_eq env _ _ entry)
  | rejected hrejects => rfl
  | nonceTooLow hchecks hlow => exact (List.append_nil _).symm

theorem Turned.executed_eq {fate : Fate T ε} (hturned : Turned env state turn fate state') :
    state'.executed = state.executed ++ fate.toEntry.toList := by
  cases hturned with
  | included hadmitted => rfl
  | rejected hrejects => exact (List.append_nil _).symm
  | nonceTooLow hchecks hlow => exact (List.append_nil _).symm

theorem Turned.skipsBlobs_eq {entry : Executed T ε} {skipsBlobs : Bool}
    (hturned : Turned env state turn (.included entry skipsBlobs) state') :
    skipsBlobs = turn.txBlobCount.any
      fun n => state.totals.blockBlobCount + n = env.maxBlobCount := by
  cases hturned with
  | included hadmitted => rfl

/-- A transaction that finds a state has no two fates there. -/
theorem Turned.unique {fate fate' : Fate T ε} {state'' : State T ε}
    (hturned : Turned env state turn fate state') (hturned' : Turned env state turn fate' state'') :
    fate = fate' ∧ state' = state'' := by
  obtain rfl := Outcome.ok.inj (hturned.body_eq.symm.trans hturned'.body_eq)
  refine ⟨?_, rfl⟩
  -- equal states have equal entries and calls, and these tell the fates apart
  have hexecuted := List.append_cancel_left (hturned.executed_eq.symm.trans hturned'.executed_eq)
  have hcalls := List.append_cancel_left (hturned.calls_eq.symm.trans hturned'.calls_eq)
  match fate, fate' with
  | .included entry skipsBlobs, .included entry' skipsBlobs' =>
      obtain rfl : entry = entry' := by simpa [Fate.toEntry] using hexecuted
      rw [hturned.skipsBlobs_eq, hturned'.skipsBlobs_eq]
  | .rejected error, .rejected error' =>
      obtain rfl : error = error' := by simpa [Fate.calls] using hcalls
      rfl
  | .nonceTooLow, .nonceTooLow => rfl
  | .included entry skipsBlobs, .rejected error => simp [Fate.toEntry] at hexecuted
  | .included entry skipsBlobs, .nonceTooLow => simp [Fate.toEntry] at hexecuted
  | .rejected error, .included entry skipsBlobs => simp [Fate.toEntry] at hexecuted
  | .nonceTooLow, .included entry skipsBlobs => simp [Fate.toEntry] at hexecuted
  | .rejected error, .nonceTooLow => simp [Fate.calls] at hcalls
  | .nonceTooLow, .rejected error => simp [Fate.calls] at hcalls

/-! ## Runs -/

theorem executed_of_fates {steps : List (Turn T ε × Fate T ε)}
    (hrun : Run (Turned env) .start steps state) :
    state.executed = steps.filterMap fun step => step.2.toEntry := by
  rw [List.filterMap_eq_flatMap_toList]
  exact hrun.collects fun _ _ _ _ => Turned.executed_eq

theorem calls_of_fates {steps : List (Turn T ε × Fate T ε)}
    (hrun : Run (Turned env) .start steps state) :
    state.calls = steps.flatMap fun step => step.2.calls step.1 :=
  hrun.collects fun _ _ _ _ => Turned.calls_eq

/-- A run of the loop is a sequence of fates, one for each transaction of the stream, and no other
sequence leads to the same state: the block is what the fates enter, and the stream is told
what the fates say. -/
theorem every_transaction_has_one_fate (env : Env) (bestTxs : List (Turn T ε))
    (state : State T ε) :
    executeBest env bestTxs = .ok state ↔
      ∃! steps : List (Turn T ε × Fate T ε), steps.map Prod.fst = bestTxs ∧
        Run (Turned env) .start steps state ∧
        state.executed = steps.filterMap (fun step => step.2.toEntry) ∧
        state.calls = steps.flatMap fun step => step.2.calls step.1 := by
  constructor
  · intro hloop
    have hturn : ∀ (s : State T ε) turn s', body env s turn = .ok s' →
        ∃ fate, Turned env s turn fate s' := fun _ _ _ => exists_fate
    have hstep : ∀ (s : State T ε) turn fate fate' s' s'', Turned env s turn fate s' →
        Turned env s turn fate' s'' → fate = fate' ∧ s' = s'' :=
      fun _ _ _ _ _ _ => Turned.unique
    -- induction on the stream, with a fate for each turn
    obtain ⟨steps, hrun, hitems⟩ := Run.of_loop hturn hloop
    refine ⟨steps, ⟨hitems, hrun, executed_of_fates hrun, calls_of_fates hrun⟩, ?_⟩
    intro steps' hsteps'
    obtain ⟨hitems', hrun', _⟩ := hsteps'
    exact (Run.unique hstep hrun' hrun (hitems'.trans hitems.symm)).1
  · intro hsteps
    obtain ⟨steps, ⟨rfl, hrun, _⟩, _⟩ := hsteps
    exact hrun.loop_eq_ok fun _ _ _ _ => Turned.body_eq

/-! ## Blobs -/

/-- The block has a blob transaction, and no room for another blob. -/
def FullOfBlobs (env : Env) (state : State T ε) : Prop :=
  state.totals.blockBlobCount = env.maxBlobCount ∧
    ∃ entry ∈ state.executed, entry.hasBlobs = true

/-- The transaction that fills the block up is the one behind which blobs are skipped. -/
theorem Turned.skipBlobs_mem_calls_iff {fate : Fate T ε}
    (hturned : Turned env state turn fate state')
    (hskips : .skipBlobs ∈ state.calls ↔ FullOfBlobs env state) :
    .skipBlobs ∈ state'.calls ↔ FullOfBlobs env state' := by
  cases hturned with
  | @included entry hadmitted =>
      simp only [List.mem_append, hskips, FullOfBlobs, List.mem_singleton]
      cases hcount : entry.turn.txBlobCount with
      | none =>
          have hnone : entry.hasBlobs = false := by simp [Executed.hasBlobs, hcount]
          simp only [blobCalls, Totals.add, hcount, List.not_mem_nil, or_false]
          constructor
          · rintro ⟨hfull, other, hmem, hblobs⟩
            exact ⟨hfull, other, Or.inl hmem, hblobs⟩
          · rintro ⟨hfull, other, hmem | rfl, hblobs⟩
            · exact ⟨hfull, other, hmem, hblobs⟩
            · simp [hnone] at hblobs
      | some n =>
          have hsome : entry.hasBlobs = true := by simp [Executed.hasBlobs, hcount]
          -- a block that was full before has room for no more blobs, so it stays full
          have hroom := hadmitted.checked.blobs n hcount
          simp only [blobCalls, Totals.add, hcount]
          constructor
          · rintro (⟨hfull, _⟩ | hcall)
            · exact ⟨by omega, entry, Or.inr rfl, hsome⟩
            · refine ⟨?_, entry, Or.inr rfl, hsome⟩
              by_contra hother
              simp [hother] at hcall
          · rintro ⟨hfull, _⟩
            right
            simp [hfull]
  | rejected hrejects =>
      simp only [State.markInvalid, List.mem_append, List.mem_singleton, reduceCtorEq, or_false]
      exact hskips
  | nonceTooLow hchecks hlow => exact hskips

theorem skipBlobs_mem_calls_iff {bestTxs : List (Turn T ε)}
    (hrun : executeBest env bestTxs = .ok state) :
    .skipBlobs ∈ state.calls ↔ FullOfBlobs env state := by
  refine Outcome.loop_invariant (I := fun s => .skipBlobs ∈ s.calls ↔ FullOfBlobs env s) ?_ ?_ hrun
  · intro s turn s' _ hs hbody
    obtain ⟨fate, hturned⟩ := exists_fate hbody
    exact hturned.skipBlobs_mem_calls_iff hs
  · simp [State.start, FullOfBlobs]

/-- The blobs of the transactions that a run adds are those its count grows by. -/
theorem blobCount_of_continued {front back : List (Turn T ε)} {middle : State T ε}
    (hfront : executeBest env front = .ok middle)
    (hrun : executeBest env (front ++ back) = .ok state) :
    ∃ later, state.executed = middle.executed ++ later ∧
      state.totals.blockBlobCount =
        middle.totals.blockBlobCount + (later.map Executed.blobCount).sum := by
  obtain ⟨middle', hfront', hback⟩ := Outcome.loop_append_eq_ok_iff.mp hrun
  obtain rfl := Outcome.ok.inj (hfront.symm.trans hfront')
  obtain ⟨later, hlater, _⟩ := (body_keepsAccounts env).entries_sublist hback
  refine ⟨later, hlater, ?_⟩
  rw [(alignedBlobs hrun).count, (alignedBlobs hfront).count, hlater, List.map_append,
    List.sum_append]

/-- The stream is told to skip blobs exactly when the block is full of them, and no transaction
that enters the block behind that has a blob. -/
theorem blobs_are_skipped_exactly_when_full (env : Env) (bestTxs : List (Turn T ε))
    (state : State T ε) (hrun : executeBest env bestTxs = .ok state) :
    (.skipBlobs ∈ state.calls ↔ state.totals.blockBlobCount = env.maxBlobCount ∧
      ∃ entry ∈ state.executed, entry.hasBlobs = true) ∧
    ∀ front back middle, bestTxs = front ++ back → executeBest env front = .ok middle →
      .skipBlobs ∈ middle.calls →
        ∃ later, state.executed = middle.executed ++ later ∧
          ∀ entry ∈ later, entry.blobCount = 0 := by
  refine ⟨skipBlobs_mem_calls_iff hrun, ?_⟩
  rintro front back middle rfl hfront hskipped
  obtain ⟨later, hlater, hcount⟩ := blobCount_of_continued hfront hrun
  refine ⟨later, hlater, ?_⟩
  -- full at the call and within the limit at the end, so nothing was counted in between
  have hfull := ((skipBlobs_mem_calls_iff hfront).mp hskipped).1
  have hlimit := (alignedBlobs hrun).limit
  have hzero : (later.map Executed.blobCount).sum = 0 := by omega
  rw [List.sum_eq_zero_iff_forall_eq_nat] at hzero
  intro entry hmem
  exact hzero _ (List.mem_map_of_mem hmem)

end

open Sample in
/-- A block with room for one blob is full of them behind the blob transaction of the stream. -/
theorem sample_stream_fills_the_block :
    ∃ state, executeBest { sampleEnv with maxBlobCount := 1 } stream = .ok state ∧
      .skipBlobs ∈ state.calls := by
  have hfull : ∃ state, executeBest { sampleEnv with maxBlobCount := 1 } stream = .ok state ∧
      state.totals.blockBlobCount = 1 ∧ state.executed.any Executed.hasBlobs = true :=
    ⟨_, rfl, rfl, rfl⟩
  obtain ⟨state, hrun, hcount, hblobs⟩ := hfull
  refine ⟨state, hrun, ?_⟩
  have hskips := blobs_are_skipped_exactly_when_full { sampleEnv with maxBlobCount := 1 } stream
    state hrun
  exact hskips.1.mpr ⟨hcount, List.any_eq_true.mp hblobs⟩

end RethCosmos.Payload
