import RethCosmos.Rpc.Admission

/-!
# Progress of requests

No request waits for another one. A request that finds no permit is refused at once, every
other step is its own, and after six steps at most it is answered. It submits its
transaction at most once, no answer is a success without a submission, and the bound on
the pool is the best one: eight requests that have read the size of an almost full pool
reach it.
-/

namespace RethCosmos.Rpc

open Encoding Rust CosmosAuth Concurrency

/-! ## Answers -/

namespace Stage

/-- The steps that are left at most. -/
def stepsLeft : Stage → Nat
  | .received _ => 6
  | .acquired _ => 5
  | .filtered _ => 4
  | .admitted _ => 3
  | .decoded _ _ => 2
  | .returning _ => 1
  | .finished _ => 0
  | .dropped => 0

def isDropped : Stage → Bool
  | .dropped => true
  | _ => false

theorem stepsLeft_orReturn_le {α : Type} {x : Except ErrorObject α} {next : α → Stage} {n : Nat}
    (hn : 1 ≤ n) (hnext : ∀ a, (next a).stepsLeft ≤ n) : (orReturn x next).stepsLeft ≤ n := by
  cases x with
  | error e => exact hn
  | ok a => exact hnext a

theorem isDropped_orReturn {α : Type} {x : Except ErrorObject α} {next : α → Stage}
    (hnext : ∀ a, (next a).isDropped = false) : (orReturn x next).isDropped = false := by
  cases x with
  | error e => rfl
  | ok a => exact hnext a

theorem stepsLeft_pos {stage : Stage} (hholds : stage.holdsPermit = true) :
    0 < stage.stepsLeft := by
  cases stage <;> simp_all [stepsLeft, holdsPermit]

end Stage

theorem Advance.stepsLeft_lt {s s' : Shared} {stage stage' : Stage}
    (hadvance : Advance s stage s' stage') : stage'.stepsLeft < stage.stepsLeft := by
  cases hadvance with
  | acquire hfree => exact Nat.lt_succ_self 5
  | refuse hfree => exact Nat.succ_pos 5
  | filter =>
      apply Nat.lt_succ_of_le
      exact Stage.stepsLeft_orReturn_le (by decide) fun _ => le_rfl
  | readPool =>
      apply Nat.lt_succ_of_le
      exact Stage.stepsLeft_orReturn_le (by decide) fun _ => le_rfl
  | decode =>
      apply Nat.lt_succ_of_le
      exact Stage.stepsLeft_orReturn_le (by decide) fun _ => le_rfl
  | submit hadded response => exact Nat.lt_succ_self 1
  | finish => exact Nat.zero_lt_one
  | drop hholds => exact Stage.stepsLeft_pos hholds

/-- The endpoint while nobody gives up on a request. -/
def patient : Interleaving Shared Stage where
  init := admission.init
  arrives := admission.arrives
  advance s stage s' stage' := Advance s stage s' stage' ∧ stage'.isDropped = stage.isDropped
  external := admission.external

theorem advances_of_patient {n : Nat} {c c' : Configuration Shared Stage}
    (hrun : patient.Advances n c c') : admission.Advances n c c' := by
  induction hrun with
  | refl => exact .refl
  | advance hadvance _ ih => exact .advance hadvance.1 ih
  | external hexternal _ ih => exact .external hexternal ih

/-- A request that is not answered and not given up has a step of its own to make. -/
theorem moves_of_pending (s : Shared) (stage : Stage) (hpending : 0 < stage.stepsLeft) :
    patient.Moves s stage := by
  cases stage with
  | received params =>
      by_cases hfree : s.free = 0
      · exact ⟨_, _, .refuse hfree, rfl⟩
      · exact ⟨_, _, .acquire (Nat.pos_of_ne_zero hfree), rfl⟩
  | acquired params => exact ⟨_, _, .filter, Stage.isDropped_orReturn fun _ => rfl⟩
  | filtered raw => exact ⟨_, _, .readPool, Stage.isDropped_orReturn fun _ => rfl⟩
  | admitted raw => exact ⟨_, _, .decode, Stage.isDropped_orReturn fun _ => rfl⟩
  | decoded raw bytes => exact ⟨_, _, .submit le_rfl (.error ""), rfl⟩
  | returning response => exact ⟨_, _, .finish, rfl⟩
  | finished response => exact absurd hpending (Nat.lt_irrefl 0)
  | dropped => exact absurd hpending (Nat.lt_irrefl 0)

theorem answered_of_stepsLeft {stage : Stage} (hdone : stage.stepsLeft = 0) :
    stage = .dropped ∨ ∃ response, stage = .finished response := by
  cases stage <;> simp_all [Stage.stepsLeft]

/-- Where every request is answered or given up, all permits are back. -/
theorem free_of_answered {c : Configuration Shared Stage} (hreach : admission.Reachable c)
    (hdone : ∀ stage ∈ c.parties, stage.stepsLeft = 0) : c.shared.free = maxPermits := by
  have hnone : c.parties.countP Stage.holdsPermit = 0 := by
    rw [List.countP_eq_zero]
    intro stage hmem hholds
    have hpositive := Stage.stepsLeft_pos hholds
    rw [hdone stage hmem] at hpositive
    exact Nat.lt_irrefl 0 hpositive
  have hfree := free_add_holding hreach
  rw [hnone, Nat.add_zero] at hfree
  exact hfree

namespace Stage

/-- Not yet submitted, and not yet answered. -/
def maySubmit : Stage → Bool
  | .received _ => true
  | .acquired _ => true
  | .filtered _ => true
  | .admitted _ => true
  | .decoded _ _ => true
  | .returning _ => false
  | .finished _ => false
  | .dropped => false

/-- Answered with the hash of a transaction. -/
def succeeded : Stage → Bool
  | .returning response => response.toBool
  | .finished response => response.toBool
  | _ => false

theorem succeeded_orReturn {α : Type} {x : Except ErrorObject α} {next : α → Stage}
    (hnext : ∀ a, (next a).succeeded = false) : (orReturn x next).succeeded = false := by
  cases x with
  | error e => rfl
  | ok a => exact hnext a

end Stage

/-- A step that submits is the last one that may, and it is the only one that adds to the pool. -/
theorem Advance.submission_cases {s s' : Shared} {stage stage' : Stage}
    (hadvance : Advance s stage s' stage') :
    (s'.submitted = s.submitted ∧ s'.poolTotal = s.poolTotal ∧
      stage'.succeeded.toNat ≤ stage.succeeded.toNat ∧ stage.maySubmit = true) ∨
    (s'.submitted = s.submitted ∧ s'.poolTotal = s.poolTotal ∧
      stage'.succeeded.toNat ≤ stage.succeeded.toNat ∧ stage'.maySubmit = false) ∨
    (s'.submitted.length = s.submitted.length + 1 ∧ s'.poolTotal ≤ s.poolTotal + 1 ∧
      stage.maySubmit = true ∧ stage'.maySubmit = false) := by
  -- the stages before the submission answer with errors only
  have hsilent : ∀ {α : Type} {x : Except ErrorObject α} {next : α → Stage},
      (∀ a, (next a).succeeded = false) →
        (Stage.orReturn x next).succeeded.toNat ≤ false.toNat := by
    intro α x next hnext
    rw [Stage.succeeded_orReturn hnext]
  cases hadvance with
  | acquire hfree => exact Or.inl ⟨rfl, rfl, le_rfl, rfl⟩
  | refuse hfree => exact Or.inl ⟨rfl, rfl, le_rfl, rfl⟩
  | filter => exact Or.inl ⟨rfl, rfl, hsilent fun _ => rfl, rfl⟩
  | readPool => exact Or.inl ⟨rfl, rfl, hsilent fun _ => rfl, rfl⟩
  | decode => exact Or.inl ⟨rfl, rfl, hsilent fun _ => rfl, rfl⟩
  | submit hadded response =>
      refine Or.inr (Or.inr ⟨?_, Nat.add_le_add_left hadded _, rfl, rfl⟩)
      exact List.length_append
  | finish => exact Or.inr (Or.inl ⟨rfl, rfl, le_rfl, rfl⟩)
  | drop hholds => exact Or.inr (Or.inl ⟨rfl, rfl, Nat.zero_le _, rfl⟩)

theorem submitted_add_maySubmit_le {c : Configuration Shared Stage}
    (hreach : admission.Reachable c) :
    c.shared.submitted.length + c.parties.countP Stage.maySubmit ≤ c.parties.length := by
  have hbalance := hreach.balance (fun s => s.submitted.length) (fun _ => 0)
    (fun stage => stage.maySubmit.toNat) (fun _ => 1) ?_ ?_ ?_ ?_
  · rw [total_eq_countP] at hbalance
    simpa [total] using hbalance
  · intro s hinit
    obtain rfl : s = _ := hinit
    exact le_rfl
  · intro stage _
    exact Bool.toNat_le _
  · intro s stage s' stage' hadvance
    have hone := Bool.toNat_le stage'.maySubmit
    rcases hadvance.submission_cases with
      ⟨hsame, _, _, hmay⟩ | ⟨hsame, _, _, hdone⟩ | ⟨hmore, _, hmay, hdone⟩
    · simp only [hsame, hmay, Bool.toNat_true]
      omega
    · simp only [hsame, hdone, Bool.toNat_false]
      omega
    · simp only [hmore, hmay, hdone, Bool.toNat_true, Bool.toNat_false]
      omega
  · intro s s' hexternal
    cases hexternal
    exact le_rfl

theorem succeeded_le_submitted {c : Configuration Shared Stage} (hreach : admission.Reachable c) :
    c.parties.countP Stage.succeeded ≤ c.shared.submitted.length := by
  have hbalance := hreach.balance (fun _ => 0) (fun s => s.submitted.length)
    (fun stage => stage.succeeded.toNat) (fun _ => 0) ?_ ?_ ?_ ?_
  · rw [total_eq_countP] at hbalance
    simpa [total] using hbalance
  · intro s _
    exact Nat.zero_le _
  · intro stage harrives
    obtain ⟨params, rfl⟩ := harrives
    exact le_rfl
  · intro s stage s' stage' hadvance
    have hone := Bool.toNat_le stage'.succeeded
    rcases hadvance.submission_cases with
      ⟨hsame, _, hsilent, _⟩ | ⟨hsame, _, hsilent, _⟩ | ⟨hmore, _, _, _⟩
    · simp only [hsame]
      omega
    · simp only [hsame]
      omega
    · simp only [hmore]
      omega
  · intro s s' hexternal
    cases hexternal
    exact le_rfl

theorem poolTotal_le_submitted {c : Configuration Shared Stage} (hreach : admission.Reachable c) :
    c.shared.poolTotal ≤ c.shared.submitted.length := by
  have hbalance := hreach.balance Shared.poolTotal (fun s => s.submitted.length) (fun _ => 0)
    (fun _ => 0) ?_ ?_ ?_ ?_
  · simpa [total] using hbalance
  · intro s hinit
    obtain rfl : s = _ := hinit
    exact le_rfl
  · intro stage _
    exact le_rfl
  · intro s stage s' stage' hadvance
    rcases hadvance.submission_cases with
      ⟨hsame, hpool, _⟩ | ⟨hsame, hpool, _⟩ | ⟨hmore, hpool, _⟩
    · rw [hsame, hpool]
    · rw [hsame, hpool]
    · rw [hmore]
      omega
  · intro s s' hexternal
    cases hexternal with
    | remove hleft => exact Nat.add_le_add_right hleft _

theorem prepare_sampleText_of_room {free total : Nat} (hfree : 0 < free)
    (hroom : total < maxPoolTotal) : prepare free total (.ok sampleText) = .ok sampleRaw := by
  apply (prepare_digits_iff hfree hroom (Hex.decode_encode sampleRaw)).mpr
  refine ⟨?_, decodeWire_sampleRaw⟩
  rw [encode_sampleRaw]
  simp only [List.cons_prefix_cons, List.nil_prefix, true_and]

/-- A request that arrives while there is a permit and room in the pool can get as far as to its
submission. -/
theorem reachable_of_arrival {s : Shared} {parties : List Stage}
    (hreach : admission.Reachable ⟨s, parties⟩) (hfree : 0 < s.free)
    (hroom : s.poolTotal < maxPoolTotal) :
    admission.Reachable
      ⟨{ s with free := s.free - 1 }, parties ++ [.decoded sampleText sampleRaw]⟩ := by
  obtain ⟨raw, hraw, hrun⟩ := run_of_prepare_eq_ok hfree (prepare_sampleText_of_room hfree hroom)
  obtain rfl := Except.ok.inj hraw
  have harrives : admission.arrives (.received (.ok sampleText)) := ⟨_, rfl⟩
  exact Alone.reachable (hreach.step (.arrive harrives)) hrun

/-- One after the other, requests fill the pool. -/
theorem exists_reachable_of_le {k : Nat} (hk : k ≤ maxPoolTotal) :
    ∃ submitted parties, admission.Reachable ⟨⟨maxPermits, k, submitted⟩, parties⟩ := by
  induction k with
  | zero => exact ⟨_, _, .init rfl⟩
  | succ k ih =>
      obtain ⟨submitted, parties, hreach⟩ := ih (Nat.le_of_succ_le hk)
      have hdecoded := reachable_of_arrival hreach (Nat.succ_pos 7) hk
      have hsubmitted := hdecoded.step (.advance (.submit le_rfl (.error "")))
      exact ⟨_, _, hsubmitted.step (.advance .finish)⟩

/-- As many requests as there are permits can be on their way to a submission at once. -/
theorem reachable_crowd {k : Nat} {submitted : List (Text × List UInt8)} {parties : List Stage}
    (hreach : admission.Reachable ⟨⟨maxPermits, k, submitted⟩, parties⟩)
    (hroom : k < maxPoolTotal) {j : Nat} (hj : j ≤ maxPermits) :
    admission.Reachable ⟨⟨maxPermits - j, k, submitted⟩,
      parties ++ List.replicate j (.decoded sampleText sampleRaw)⟩ := by
  induction j with
  | zero =>
      rw [List.replicate_zero, List.append_nil]
      exact hreach
  | succ j ih =>
      have hcrowd := ih (Nat.le_of_succ_le hj)
      rw [List.replicate_succ', ← List.append_assoc]
      exact reachable_of_arrival hcrowd (Nat.sub_pos_of_lt hj) hroom

/-- None of them looks at the pool again. -/
theorem exists_reachable_of_crowd {free k j : Nat} {submitted : List (Text × List UInt8)}
    {front : List Stage}
    (hreach : admission.Reachable ⟨⟨free, k, submitted⟩,
      front ++ List.replicate j (.decoded sampleText sampleRaw)⟩) :
    ∃ submitted parties, admission.Reachable ⟨⟨free, k + j, submitted⟩, parties⟩ := by
  induction j generalizing k submitted front with
  | zero => exact ⟨_, _, hreach⟩
  | succ j ih =>
      have hsubmitted := hreach.step (.advance (.submit le_rfl (.error "")))
      rw [List.append_cons front] at hsubmitted
      rw [Nat.add_comm j 1, ← Nat.add_assoc]
      exact ih hsubmitted

/-- The sizes that the pool can have are exactly those up to the limit plus seven. -/
theorem pool_reaches_every_size_up_to_the_bound (n : Nat) :
    (∃ c, admission.Reachable c ∧ c.shared.poolTotal = n) ↔ n ≤ 3079 := by
  constructor
  · rintro ⟨c, hreach, rfl⟩
    have hbound := pool_add_pending_le hreach
    simp only [maxPoolTotal, maxPermits] at hbound
    omega
  · intro hn
    obtain ⟨submitted, parties, hfull⟩ := exists_reachable_of_le (k := 3071) (by decide)
    have hcrowd := reachable_crowd hfull (by decide) (j := 8) (by decide)
    obtain ⟨submitted', parties', hover⟩ := exists_reachable_of_crowd hcrowd
    exact ⟨_, hover.step (.external (.remove hn)), rfl⟩

/-! ## One request -/

theorem reachable_of_one_request :
    admission.Reachable ⟨⟨maxPermits, 0, []⟩, [.received (.ok sampleText)]⟩ :=
  .step (.init rfl) (.arrive ⟨_, rfl⟩)

end RethCosmos.Rpc
