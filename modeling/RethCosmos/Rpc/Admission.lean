import Mathlib.Logic.Relation
import RethCosmos.Concurrency.Interleaving
import RethCosmos.Rpc.TextFilter

/-!
# Admission control

Requests run interleaved. Each takes one of eight permits, reads the size of the pool
once, and submits its transaction some steps later. The permits bound how many requests
can have read a size that has grown since, and so how far the pool can pass its limit.
-/

namespace RethCosmos.Rpc

open Encoding Rust CosmosAuth Concurrency

/-! ## Requests -/

/-- What the requests share: the free permits, the size of the pool, and the bytes given to
the Ethereum endpoint so far, each with the text they were read from. -/
structure Shared where
  free : Nat
  poolTotal : Nat
  submitted : List (Text × List UInt8)

/-- How far a request has come. From `acquired` to `returning` it holds its permit. -/
inductive Stage
  | received (params : Except ErrorObject Text)
  | acquired (params : Except ErrorObject Text)
  | filtered (raw : Text)
  | admitted (raw : Text)
  | decoded (raw : Text) (bytes : List UInt8)
  | returning (response : Except ErrorObject B256)
  | finished (response : Except ErrorObject B256)
  | dropped

namespace Stage

/-- The next stage of a request, or the return of an error. -/
def orReturn {α : Type} (x : Except ErrorObject α) (next : α → Stage) : Stage :=
  match x with
  | .ok a => next a
  | .error e => .returning (.error e)

def holdsPermit : Stage → Bool
  | .received _ => false
  | .acquired _ => true
  | .filtered _ => true
  | .admitted _ => true
  | .decoded _ _ => true
  | .returning _ => true
  | .finished _ => false
  | .dropped => false

/-- Past the check of the pool size, and not yet submitted. -/
def mayAdd : Stage → Bool
  | .admitted _ => true
  | .decoded _ _ => true
  | _ => false

theorem mayAdd_le_holdsPermit (stage : Stage) :
    stage.mayAdd.toNat ≤ stage.holdsPermit.toNat := by
  cases stage <;> simp [mayAdd, holdsPermit]

theorem holdsPermit_orReturn {α : Type} {x : Except ErrorObject α} {next : α → Stage}
    (hnext : ∀ a, (next a).holdsPermit = true) : (orReturn x next).holdsPermit = true := by
  cases x with
  | error e => rfl
  | ok a => exact hnext a

theorem mayAdd_orReturn_le {α : Type} {x : Except ErrorObject α} {next : α → Stage} {held : Bool}
    (hnext : ∀ a, (next a).mayAdd = held) : (orReturn x next).mayAdd.toNat ≤ held.toNat := by
  cases x with
  | error e => exact Nat.zero_le _
  | ok a =>
      rw [orReturn, hnext a]

end Stage

/-- One step of a request. A submission adds the transaction or does not, and the future
of a request can be dropped at any point, which drops its permit as well. -/
inductive Advance : Shared → Stage → Shared → Stage → Prop
  | acquire {s : Shared} {params : Except ErrorObject Text} (hfree : 0 < s.free) :
      Advance s (.received params) { s with free := s.free - 1 } (.acquired params)
  | refuse {s : Shared} {params : Except ErrorObject Text} (hfree : s.free = 0) :
      Advance s (.received params) s
        (.finished (.error (rpcError "authorization capacity reached")))
  | filter {s : Shared} {params : Except ErrorObject Text} :
      Advance s (.acquired params) s
        (Stage.orReturn (do let raw ← params; checkText raw; return raw) .filtered)
  | readPool {s : Shared} {raw : Text} :
      Advance s (.filtered raw) s
        (Stage.orReturn (checkPool s.poolTotal) fun _ => .admitted raw)
  | decode {s : Shared} {raw : Text} :
      Advance s (.admitted raw) s
        (Stage.orReturn (do let bytes ← parse raw; checkWire bytes; return bytes) (.decoded raw))
  | submit {s : Shared} {raw : Text} {bytes : List UInt8} {added : Nat} (hadded : added ≤ 1)
      (response : Except String B256) :
      Advance s (.decoded raw bytes)
        { s with
          poolTotal := s.poolTotal + added
          submitted := s.submitted ++ [(raw, bytes)] }
        (.returning (response.mapError rpcError))
  | finish {s : Shared} {response : Except ErrorObject B256} :
      Advance s (.returning response) { s with free := s.free + 1 } (.finished response)
  | drop {s : Shared} {stage : Stage} (hholds : stage.holdsPermit = true) :
      Advance s stage { s with free := s.free + 1 } .dropped

/-- All other changes of the pool remove transactions. -/
inductive PoolShrinks : Shared → Shared → Prop
  | remove {s : Shared} {left : Nat} (hleft : left ≤ s.poolTotal) :
      PoolShrinks s { s with poolTotal := left }

/-- The endpoint of a node that starts with an empty pool. -/
def admission : Interleaving Shared Stage where
  init s := s = ⟨maxPermits, 0, []⟩
  arrives stage := ∃ params, stage = .received params
  advance := Advance
  external := PoolShrinks

/-! ## The handler is a run of one request -/

/-- Steps of one request while nothing else moves. -/
def Alone : Shared × Stage → Shared × Stage → Prop :=
  Relation.ReflTransGen fun before after => Advance before.1 before.2 after.1 after.2

theorem Alone.step {start : Shared × Stage} {s s' : Shared} {stage stage' : Stage}
    (hrun : Alone start (s, stage)) (hadvance : Advance s stage s' stage') :
    Alone start (s', stage') :=
  Relation.ReflTransGen.tail hrun hadvance

/-- Up to the call of the Ethereum endpoint, the handler is what the steps of its request do
without interference. -/
theorem prepare_is_run {s : Shared} (hfree : 0 < s.free) (params : Except ErrorObject Text) :
    ∃ stage, Alone (s, .received params) ({ s with free := s.free - 1 }, stage) ∧
      match prepare s.free s.poolTotal params with
      | .error e => stage = .returning (.error e)
      | .ok bytes => ∃ raw, params = .ok raw ∧ stage = .decoded raw bytes := by
  have hacquired : Alone (s, .received params) ({ s with free := s.free - 1 }, .acquired params) :=
    Relation.ReflTransGen.single (Advance.acquire hfree)
  have hfiltered := hacquired.step Advance.filter
  simp only [prepare, Nat.ne_of_gt hfree, if_false]
  cases params with
  | error e => exact ⟨_, hfiltered, rfl⟩
  | ok raw =>
      rw [ok_bind] at hfiltered ⊢
      cases htext : checkText raw with
      | error e =>
          rw [htext] at hfiltered
          exact ⟨_, hfiltered, rfl⟩
      | ok _ =>
          rw [htext] at hfiltered
          have hread := hfiltered.step Advance.readPool
          rw [ok_bind]
          cases hpool : checkPool s.poolTotal with
          | error e =>
              rw [hpool] at hread
              exact ⟨_, hread, rfl⟩
          | ok _ =>
              rw [hpool] at hread
              have hdecoded := hread.step Advance.decode
              rw [ok_bind]
              cases hparse : parse raw with
              | error e =>
                  rw [hparse] at hdecoded
                  exact ⟨_, hdecoded, rfl⟩
              | ok bytes =>
                  rw [hparse, ok_bind] at hdecoded
                  rw [ok_bind]
                  cases hwire : checkWire bytes with
                  | error e =>
                      rw [hwire] at hdecoded
                      exact ⟨_, hdecoded, rfl⟩
                  | ok _ =>
                      rw [hwire] at hdecoded
                      exact ⟨_, hdecoded, raw, rfl, rfl⟩

theorem run_of_prepare_eq_ok {s : Shared} (hfree : 0 < s.free) {params : Except ErrorObject Text}
    {bytes : List UInt8} (hok : prepare s.free s.poolTotal params = .ok bytes) :
    ∃ raw, params = .ok raw ∧
      Alone (s, .received params) ({ s with free := s.free - 1 }, .decoded raw bytes) := by
  obtain ⟨stage, hrun, hstage⟩ := prepare_is_run hfree params
  rw [hok] at hstage
  obtain ⟨raw, hraw, rfl⟩ := hstage
  exact ⟨raw, hraw, hrun⟩

/-- The run of one request, the others standing still, is a run of the endpoint. -/
theorem Alone.reachable {before after : List Stage} {start last : Shared × Stage}
    (hreach : admission.Reachable ⟨start.1, before ++ start.2 :: after⟩)
    (hrun : Alone start last) :
    admission.Reachable ⟨last.1, before ++ last.2 :: after⟩ := by
  induction hrun with
  | refl => exact hreach
  | tail _ hadvance ih => exact ih.step (Interleaving.Step.advance hadvance)

/-! ## Permits -/

theorem Advance.free_conserved {s s' : Shared} {stage stage' : Stage}
    (hadvance : Advance s stage s' stage') :
    s'.free + stage'.holdsPermit.toNat = s.free + stage.holdsPermit.toNat := by
  cases hadvance with
  | acquire hfree =>
      simp only [Stage.holdsPermit, Bool.toNat_true, Bool.toNat_false]
      omega
  | refuse hfree => rfl
  | filter => rw [Stage.holdsPermit_orReturn fun _ => rfl, Stage.holdsPermit]
  | readPool => rw [Stage.holdsPermit_orReturn fun _ => rfl, Stage.holdsPermit]
  | decode => rw [Stage.holdsPermit_orReturn fun _ => rfl, Stage.holdsPermit]
  | submit hadded response => rfl
  | finish => rfl
  | drop hholds => rw [hholds, Stage.holdsPermit]; rfl

/-- No path of a request loses or duplicates a permit. -/
theorem free_add_holding {c : Configuration Shared Stage} (hreach : admission.Reachable c) :
    c.shared.free + c.parties.countP Stage.holdsPermit = maxPermits := by
  rw [← total_eq_countP]
  apply hreach.conserved
  · intro s hinit
    obtain rfl : s = _ := hinit
    rfl
  · intro stage harrives
    obtain ⟨params, rfl⟩ := harrives
    rfl
  · intro s stage s' stage' hadvance
    exact hadvance.free_conserved
  · intro s s' hexternal
    cases hexternal
    rfl

/-! ## The pool -/

/-- The pool and what may still be added to it grow together only where a request reads the
size of a pool with room. -/
theorem Advance.pool_cases {s s' : Shared} {stage stage' : Stage}
    (hadvance : Advance s stage s' stage') :
    s'.poolTotal + stage'.mayAdd.toNat ≤ s.poolTotal + stage.mayAdd.toNat ∨
      s'.poolTotal = s.poolTotal ∧ s.poolTotal < maxPoolTotal ∧
        stage.holdsPermit = true ∧ stage.mayAdd = false := by
  cases hadvance with
  | acquire hfree => exact Or.inl le_rfl
  | refuse hfree => exact Or.inl le_rfl
  | filter =>
      apply Or.inl
      apply Nat.add_le_add_left
      apply Stage.mayAdd_orReturn_le
      intro a
      rfl
  | @readPool raw =>
      cases hpool : checkPool s.poolTotal with
      | error e => exact Or.inl le_rfl
      | ok _ => exact Or.inr ⟨rfl, checkPool_eq_ok_iff.mp hpool, rfl, rfl⟩
  | decode =>
      apply Or.inl
      apply Nat.add_le_add_left
      apply Stage.mayAdd_orReturn_le
      intro a
      rfl
  | submit hadded response =>
      apply Or.inl
      simp only [Stage.mayAdd, Bool.toNat_true, Bool.toNat_false]
      omega
  | finish => exact Or.inl le_rfl
  | drop hholds =>
      apply Or.inl
      simp [Stage.mayAdd]

/-- Requests that may still add a transaction hold permits, so one that reads the pool size
sees at most seven others. -/
theorem pool_add_pending_le {c : Configuration Shared Stage} (hreach : admission.Reachable c) :
    c.shared.poolTotal + c.parties.countP Stage.mayAdd ≤ maxPoolTotal + maxPermits - 1 := by
  rw [← total_eq_countP]
  apply hreach.invariant (P := fun c =>
    c.shared.poolTotal + total (fun p => p.mayAdd.toNat) c.parties ≤
      maxPoolTotal + maxPermits - 1)
  · intro s hinit
    obtain rfl : s = _ := hinit
    simp
  · intro c c' hreach hprev hstep
    cases hstep with
    | arrive harrives =>
        obtain ⟨params, rfl⟩ := harrives
        simpa [Stage.mayAdd] using hprev
    | external hexternal =>
        cases hexternal with
        | remove hleft =>
            simp only at hprev ⊢
            omega
    | @advance s s' before after stage stage' hadvance =>
        have hheld := free_add_holding hreach
        rw [← total_eq_countP] at hheld
        simp only [total_append, total_cons] at hprev hheld ⊢
        rcases hadvance.pool_cases with hle | ⟨hsame, hroom, hholds, hidle⟩
        · omega
        · -- every other request that may add holds one of the other permits
          have hbefore := total_le_total Stage.mayAdd_le_holdsPermit before
          have hafter := total_le_total Stage.mayAdd_le_holdsPermit after
          have hone := Bool.toNat_le stage'.mayAdd
          simp only [hholds, hidle, Bool.toNat_true, Bool.toNat_false] at hprev hheld
          omega

/-! ## Submissions -/

/-- The bytes are those of a text that passed the filter, and the wire decoder accepts them. -/
structure Checked (raw : Text) (bytes : List UInt8) : Prop where
  text : checkText raw = .ok ()
  parsed : parseBytes raw = some bytes
  decoded : ∃ parts, decodeWire bytes = .ok parts

/-- What a request has checked when it gets to a stage. -/
def Stage.Passed : Stage → Prop
  | .filtered raw => checkText raw = .ok ()
  | .admitted raw => checkText raw = .ok ()
  | .decoded raw bytes => Checked raw bytes
  | _ => True

theorem Stage.passed_orReturn {α : Type} {x : Except ErrorObject α} {next : α → Stage}
    (hnext : ∀ a, x = .ok a → (next a).Passed) : (Stage.orReturn x next).Passed := by
  cases x with
  | error e => trivial
  | ok a => exact hnext a rfl

theorem Advance.passed {s s' : Shared} {stage stage' : Stage}
    (hsubmitted : ∀ pair ∈ s.submitted, Checked pair.1 pair.2) (hpassed : stage.Passed)
    (hadvance : Advance s stage s' stage') :
    (∀ pair ∈ s'.submitted, Checked pair.1 pair.2) ∧ stage'.Passed := by
  cases hadvance with
  | acquire hfree => exact ⟨hsubmitted, trivial⟩
  | refuse hfree => exact ⟨hsubmitted, trivial⟩
  | filter =>
      refine ⟨hsubmitted, Stage.passed_orReturn ?_⟩
      intro raw hread
      simp only [bind_eq_ok_iff, pure_eq_ok, Except.ok.injEq] at hread
      obtain ⟨_, _, _, htext, rfl⟩ := hread
      exact htext
  | readPool => exact ⟨hsubmitted, Stage.passed_orReturn fun _ _ => hpassed⟩
  | decode =>
      refine ⟨hsubmitted, Stage.passed_orReturn ?_⟩
      intro bytes hread
      simp only [bind_eq_ok_iff, pure_eq_ok, Except.ok.injEq] at hread
      obtain ⟨_, hparse, _, hwire, rfl⟩ := hread
      exact ⟨hpassed, parse_eq_ok_iff.mp hparse, checkWire_eq_ok_iff.mp hwire⟩
  | submit hadded response =>
      refine ⟨?_, trivial⟩
      intro pair hmem
      rcases List.mem_append.mp hmem with hmem | hmem
      · exact hsubmitted pair hmem
      · rw [List.mem_singleton.mp hmem]
        exact hpassed
  | finish => exact ⟨hsubmitted, trivial⟩
  | drop hholds => exact ⟨hsubmitted, trivial⟩

theorem submitted_checked {c : Configuration Shared Stage} (hreach : admission.Reachable c) :
    (∀ pair ∈ c.shared.submitted, Checked pair.1 pair.2) ∧ ∀ stage ∈ c.parties, stage.Passed := by
  apply hreach.shared_and_parties (S := fun s => ∀ pair ∈ s.submitted, Checked pair.1 pair.2)
  · intro s hinit
    obtain rfl : s = _ := hinit
    simp
  · intro stage harrives
    obtain ⟨params, rfl⟩ := harrives
    trivial
  · intro s stage s' stage' hsubmitted hpassed hadvance
    exact hadvance.passed hsubmitted hpassed
  · intro s s' hsubmitted hexternal
    cases hexternal
    exact hsubmitted

/-! ## The bound -/

/-- Whatever the order of the steps: at most eight requests are in progress and hold the
permits that are not free, everything submitted was decoded before, and the pool stays
within the limit each request checks plus seven. -/
theorem admission_control_bounds_the_pool {c : Configuration Shared Stage}
    (hreach : admission.Reachable c) :
    c.parties.countP Stage.holdsPermit ≤ 8 ∧
      c.shared.free + c.parties.countP Stage.holdsPermit = 8 ∧
      (∀ raw bytes, (raw, bytes) ∈ c.shared.submitted →
        parseBytes raw = some bytes ∧ ∃ parts, decodeWire bytes = .ok parts) ∧
      c.shared.poolTotal + c.parties.countP Stage.mayAdd ≤ 3079 ∧
      c.shared.poolTotal ≤ 3079 := by
  have hpermits : c.shared.free + c.parties.countP Stage.holdsPermit = 8 := free_add_holding hreach
  have hpool : c.shared.poolTotal + c.parties.countP Stage.mayAdd ≤ 3079 :=
    pool_add_pending_le hreach
  refine ⟨by omega, hpermits, ?_, hpool, by omega⟩
  intro raw bytes hmem
  have hchecked := (submitted_checked hreach).1 _ hmem
  exact ⟨hchecked.parsed, hchecked.decoded⟩

/-- One request alone takes its transaction into an empty pool. -/
theorem sample_request_is_admitted :
    ∃ c, admission.Reachable c ∧ c.shared.poolTotal = 1 ∧ c.shared.free = 7 ∧
      c.shared.submitted = [(sampleText, sampleRaw)] ∧
      c.parties.countP Stage.holdsPermit ≤ 8 ∧
      c.shared.free + c.parties.countP Stage.holdsPermit = 8 ∧
      (∀ raw bytes, (raw, bytes) ∈ c.shared.submitted →
        parseBytes raw = some bytes ∧ ∃ parts, decodeWire bytes = .ok parts) ∧
      c.shared.poolTotal + c.parties.countP Stage.mayAdd ≤ 3079 ∧
      c.shared.poolTotal ≤ 3079 := by
  let s : Shared := ⟨maxPermits, 0, []⟩
  have hfree : 0 < s.free := Nat.succ_pos 7
  obtain ⟨raw, hraw, hrun⟩ := run_of_prepare_eq_ok hfree prepare_sampleText
  obtain rfl := Except.ok.inj hraw
  have hstart : admission.Reachable ⟨s, [.received (.ok sampleText)]⟩ :=
    (Interleaving.Reachable.init rfl).step (Interleaving.Step.arrive ⟨_, rfl⟩)
  have hdecoded := @Alone.reachable [] [] _ _ hstart hrun
  have hsubmitted := hdecoded.step
    (Interleaving.Step.advance (Advance.submit le_rfl (.ok (FixedBytes.ofNat 32 0))))
  exact ⟨_, hsubmitted, rfl, rfl, rfl, admission_control_bounds_the_pool hsubmitted⟩

end RethCosmos.Rpc
