import RethCosmos.Payload.Gas
import RethCosmos.Payload.Trace

/-!
# Room in a block

A block only fills up. A transaction that is refused because there is no room for it would be
refused at every later point of the run too, and so would any other that needs no less: the
builder never gives the room it kept from a transaction to a later one of the same needs.
-/

namespace RethCosmos.Payload

open Encoding Rust Upstream Primitives CosmosAuth

section Room

variable {T ε : Type} [TransactionAccessors T] [Encodable2718 T] [RlpBlockSize] {env : Env}
  {totals totals' : Totals} {turn turn' : Turn T ε}

/-- What the totals leave of the block is not enough for the transaction. -/
inductive NoRoom (env : Env) (totals : Totals) (turn : Turn T ε) : Prop
  | gas (hexceeds : exceedsGasLimit env totals turn ≠ none)
  | size (hosaka : env.isOsaka = true)
      (hover : estimatedBlockSizeWithTx env totals turn > RlpBlockSize.max)
  | blobs {n : Nat} (hcount : turn.txBlobCount = some n)
      (hover : totals.blockBlobCount + n > env.maxBlobCount)

/-- The second transaction needs no less of a block than the first. -/
structure NeedsNoLess (turn turn' : Turn T ε) : Prop where
  gas : turn.gasLimit.toNat ≤ turn'.gasLimit.toNat
  size : turn.txRlpLen ≤ turn'.txRlpLen
  blobs : ∀ n, turn.txBlobCount = some n → ∃ n', turn'.txBlobCount = some n' ∧ n ≤ n'

/-- The later totals leave no more of the block than the earlier ones. -/
structure LeavesNoMore (env : Env) (totals totals' : Totals) : Prop where
  beforeAmsterdam : env.isAmsterdam = false →
    totals.cumulativeTxGasUsed.toNat ≤ totals'.cumulativeTxGasUsed.toNat
  regular : env.isAmsterdam = true →
    totals.blockRegularGasUsed.toNat ≤ totals'.blockRegularGasUsed.toNat
  state : env.isAmsterdam = true →
    totals.blockStateGasUsed.toNat ≤ totals'.blockStateGasUsed.toNat
  size : totals.blockTransactionsRlpLength ≤ totals'.blockTransactionsRlpLength
  blobs : totals.blockBlobCount ≤ totals'.blockBlobCount

/-! ## Less room, more needs -/

omit [RlpBlockSize] in
theorem exceedsGasLimit_mono (hless : LeavesNoMore env totals totals')
    (hneeds : NeedsNoLess turn turn') (hexceeds : exceedsGasLimit env totals turn ≠ none) :
    exceedsGasLimit env totals' turn' ≠ none := by
  have hgas := hneeds.gas
  -- by contraposition: what fits later, needing no less, would have fitted before
  rw [ne_eq, exceedsGasLimit_eq_none_iff] at hexceeds ⊢
  intro hfits
  apply hexceeds
  cases hfork : env.isAmsterdam with
  | true =>
      have hregular := hless.regular hfork
      have hstate := hless.state hfork
      simp only [hfork, if_true] at hfits ⊢
      omega
  | false =>
      have hcumulative := hless.beforeAmsterdam hfork
      simp only [hfork, Bool.false_eq_true, if_false] at hfits ⊢
      omega

theorem NoRoom.mono (hroom : NoRoom env totals turn) (hless : LeavesNoMore env totals totals')
    (hneeds : NeedsNoLess turn turn') : NoRoom env totals' turn' := by
  cases hroom with
  | gas hexceeds => exact .gas (exceedsGasLimit_mono hless hneeds hexceeds)
  | size hosaka hover =>
      apply NoRoom.size hosaka
      have hlength := hless.size
      have hneeds := hneeds.size
      unfold estimatedBlockSizeWithTx at hover ⊢
      omega
  | @blobs n hcount hover =>
      obtain ⟨n', hcount', hle⟩ := hneeds.blobs n hcount
      have hblobs := hless.blobs
      exact .blobs hcount' (by omega)

omit [RlpBlockSize] in
theorem needsNoLess_refl (turn : Turn T ε) : NeedsNoLess turn turn where
  gas := Nat.le_refl _
  size := Nat.le_refl _
  blobs n hcount := ⟨n, hcount, Nat.le_refl n⟩

section Runs

variable [TxHashRef T] {state middle : State T ε}

/-- What was admitted passed every check for room. -/
theorem Admitted.not_noRoom {entry : Executed T ε} (hadmitted : Admitted env totals entry) :
    ¬ NoRoom env totals entry.turn := by
  have hchecked := hadmitted.checked
  intro hroom
  cases hroom with
  | gas hexceeds => exact hexceeds hchecked.gas
  | size hosaka hover => exact absurd (hchecked.size hosaka) (Nat.not_le.mpr hover)
  | blobs hcount hover => exact absurd (hchecked.blobs _ hcount) (Nat.not_le.mpr hover)

/-! ## A block fills up -/

omit [RlpBlockSize] [TxHashRef T] in
/-- The gas of an entry is added to exact counters, so none of them goes back. -/
theorem LeavesNoMore.add {executed : List (Executed T ε)} {entry : Executed T ε}
    (hless : LeavesNoMore env totals totals') (hwithin : WithinBlockGas env totals' executed)
    (hpushed : WithinBlockGas env (totals'.add entry) (executed ++ [entry])) :
    LeavesNoMore env totals (totals'.add entry) where
  beforeAmsterdam hfork := by
    have hbefore := (hwithin.beforeAmsterdam hfork).exact
    have hafter := (hpushed.beforeAmsterdam hfork).exact
    rw [List.map_append, List.sum_append, ← hbefore] at hafter
    exact (hless.beforeAmsterdam hfork).trans (by omega)
  regular hfork := by
    have hbefore := (hwithin.regular hfork).exact
    have hafter := (hpushed.regular hfork).exact
    rw [List.map_append, List.sum_append, ← hbefore] at hafter
    exact (hless.regular hfork).trans (by omega)
  state hfork := by
    have hbefore := (hwithin.state hfork).exact
    have hafter := (hpushed.state hfork).exact
    rw [List.map_append, List.sum_append, ← hbefore] at hafter
    exact (hless.state hfork).trans (by omega)
  size := hless.size.trans (Nat.le_add_right _ _)
  blobs := by
    apply hless.blobs.trans
    simp only [Totals.add]
    split
    next => exact Nat.le_add_right _ _
    next => exact Nat.le_refl _

/-- What is entered behind a refusal, and the room that is left by then. -/
structure Refused (env : Env) (refused : Turn T ε) (middle state : State T ε) : Prop where
  gas : WithinBlockGas env state.totals state.executed
  noMore : LeavesNoMore env middle.totals state.totals
  later : ∃ later, state.executed = middle.executed ++ later ∧
    ∀ entry ∈ later, ¬ NeedsNoLess refused entry.turn

theorem Refused.step {refused : Turn T ε} (hroom : NoRoom env middle.totals refused)
    (hgas : turn.GasWithinLimits env) {state' : State T ε} (h : Refused env refused middle state)
    (hbody : body env state turn = .ok state') : Refused env refused middle state' := by
  -- a turn leaves totals and entries as they are, or admits one entry
  rcases body_eq_ok hbody with ⟨htotals, hexecuted⟩ | ⟨entry, hadmitted, rfl, htotals, hexecuted⟩
  · constructor
    · rw [htotals, hexecuted]
      exact h.gas
    · rw [htotals]
      exact h.noMore
    · rw [hexecuted]
      exact h.later
  · have hpushed := h.gas.push hadmitted hgas
    obtain ⟨later, hlater, hless⟩ := h.later
    constructor
    · rw [htotals, hexecuted]
      exact hpushed
    · rw [htotals]
      exact h.noMore.add h.gas hpushed
    · refine ⟨later ++ [entry], by rw [hexecuted, hlater, List.append_assoc], ?_⟩
      intro other hmem hneeds
      rcases List.mem_append.mp hmem with hmem | hmem
      · exact hless other hmem hneeds
      · -- the entry was admitted although the refused transaction would still not fit
        obtain rfl := List.mem_singleton.mp hmem
        exact hadmitted.not_noRoom (hroom.mono h.noMore hneeds)

/-- The refusal holds at every later state. -/
theorem refused_of_run {front back : List (Turn T ε)} {refused : Turn T ε}
    (hgas : ∀ turn ∈ front ++ back, turn.GasWithinLimits env)
    (hfront : executeBest env front = .ok middle) (hroom : NoRoom env middle.totals refused)
    (hrun : executeBest env (front ++ back) = .ok state) : Refused env refused middle state := by
  obtain ⟨middle', hfront', hback⟩ := Outcome.loop_append_eq_ok_iff.mp hrun
  obtain rfl := Outcome.ok.inj (hfront.symm.trans hfront')
  have hwithin := withinBlockGas (fun turn hmem => hgas turn (List.mem_append_left _ hmem)) hfront
  -- the invariant starts at the state that the refused transaction found
  refine Outcome.loop_invariant (I := Refused env refused middle) ?_ ?_ hback
  · intro s turn s' hmem hs hbody
    exact hs.step hroom (hgas turn (List.mem_append_right _ hmem)) hbody
  · refine ⟨hwithin, ?_, [], by simp, by simp⟩
    exact ⟨fun _ => Nat.le_refl _, fun _ => Nat.le_refl _, fun _ => Nat.le_refl _, Nat.le_refl _,
      Nat.le_refl _⟩

/-! ## The turn of a refusal -/

/-- Without room, a turn that does not end the run tells the stream so. -/
theorem NoRoom.rejected (hroom : NoRoom env state.totals turn) {state' : State T ε}
    (hbody : body env state turn = .ok state') : ∃ error, state' = state.markInvalid turn error := by
  obtain ⟨fate, hturned⟩ := exists_fate hbody
  cases hturned with
  | included hadmitted => exact absurd hroom hadmitted.not_noRoom
  | rejected hrejects => exact ⟨_, rfl⟩
  | nonceTooLow hchecks hlow =>
      -- too low a nonce is found by the executor, behind every check for room
      have hchecked := checked_of_execute hchecks
      cases hroom with
      | gas hexceeds => exact absurd hchecked.gas hexceeds
      | size hosaka hover => exact absurd (hchecked.size hosaka) (Nat.not_le.mpr hover)
      | blobs hcount hover => exact absurd (hchecked.blobs _ hcount) (Nat.not_le.mpr hover)

/-- The stream stays told. -/
theorem mem_calls_of_loop {items : List (Turn T ε)} {state' : State T ε} {call : StreamCall T}
    (hmem : call ∈ state.calls) (hloop : Outcome.loop (body env) state items = .ok state') :
    call ∈ state'.calls := by
  refine Outcome.loop_invariant (I := fun s => call ∈ s.calls) ?_ hmem hloop
  intro s turn s' _ hs hbody
  obtain ⟨fate, hturned⟩ := exists_fate hbody
  rw [hturned.calls_eq]
  exact List.mem_append_left _ hs

end Runs

end Room

/-- If there is no room for a transaction when its turn comes, in gas, in bytes or in blobs, the
stream is told so, no transaction that needs no less enters the block behind it, and there
is still no room for it or any such transaction in the block that is built. -/
theorem room_is_not_given_to_a_later_transaction (T ε : Type) [TransactionAccessors T]
    [TxHashRef T] [Encodable2718 T] [RlpBlockSize] (env : Env) (front back : List (Turn T ε))
    (turn : Turn T ε) (hgas : ∀ other ∈ front ++ turn :: back, other.GasWithinLimits env)
    (middle state : State T ε) (hfront : executeBest env front = .ok middle)
    (hroom : NoRoom env middle.totals turn)
    (hrun : executeBest env (front ++ turn :: back) = .ok state) :
    (∃ error, .markInvalid turn.poolTx error ∈ state.calls) ∧
    (∃ later, state.executed = middle.executed ++ later ∧
      ∀ entry ∈ later, ¬ NeedsNoLess turn entry.turn) ∧
    NoRoom env state.totals turn ∧
    ∀ other : Turn T ε, NeedsNoLess turn other → NoRoom env state.totals other := by
  have hrefused := refused_of_run hgas hfront hroom hrun
  refine ⟨?_, hrefused.later, hroom.mono hrefused.noMore (needsNoLess_refl turn), ?_⟩
  · obtain ⟨middle', hfront', hrest⟩ := Outcome.loop_append_eq_ok_iff.mp hrun
    obtain rfl := Outcome.ok.inj (hfront.symm.trans hfront')
    obtain ⟨next, hbody, hback⟩ := Outcome.loop_cons_eq_ok_iff.mp hrest
    obtain ⟨error, rfl⟩ := hroom.rejected hbody
    refine ⟨error, mem_calls_of_loop ?_ hback⟩
    exact List.mem_append_right _ (List.mem_singleton.mpr rfl)
  · intro other hneeds
    exact hroom.mono hrefused.noMore hneeds

namespace Sample

/-- A block with room for one transfer. -/
def tightEnv : Env := { sampleEnv with blockGasLimit := 30000 }

theorem noRoom_behind_transfer : ∃ middle, executeBest tightEnv [transferTurn] = .ok middle ∧
    NoRoom tightEnv middle.totals transferTurn := by
  refine ⟨_, rfl, .gas ?_⟩
  decide

end Sample

open Sample in
/-- There is no room for a second transfer, and none behind the third. -/
theorem sample_block_has_room_for_one_transfer :
    ∃ state, executeBest tightEnv [transferTurn, transferTurn, transferTurn] = .ok state ∧
      NoRoom tightEnv state.totals transferTurn := by
  have hgas : ∀ other ∈ [transferTurn] ++ transferTurn :: [transferTurn],
      other.GasWithinLimits tightEnv := by
    intro other hmem
    obtain rfl : other = transferTurn := by simpa using hmem
    have hlimits := stream_gasWithinLimits transferTurn (by simp [stream])
    exact ⟨hlimits.tx, hlimits.regular, hlimits.state⟩
  have hrun : ∃ state, executeBest tightEnv ([transferTurn] ++ transferTurn :: [transferTurn]) =
      .ok state := ⟨_, rfl⟩
  obtain ⟨middle, hfront, hroom⟩ := noRoom_behind_transfer
  obtain ⟨state, hrun⟩ := hrun
  obtain ⟨_, _, hkept, _⟩ := room_is_not_given_to_a_later_transaction Primitives.Sample.Eth Unit
    tightEnv [transferTurn] [transferTurn] transferTurn hgas middle state hfront hroom hrun
  exact ⟨state, hrun, hkept⟩

end RethCosmos.Payload
