import Mathlib.Algebra.Order.BigOperators.Group.List
import Mathlib.Algebra.Order.Group.Nat
import Mathlib.Algebra.Ring.Nat

/-!
# Interleaved parties over a shared state

Any number of parties, each with a state of its own, over one shared state. A step moves
one party together with the shared state, moves the shared state alone, or lets a party
arrive. What the parties hold together is a total of weights, and a step of one party
changes the total by the weight of that party only.
-/

namespace RethCosmos.Concurrency

variable {σ π : Type}

/-- The steps of one party, and of everything that is not a party. -/
structure Interleaving (σ π : Type) where
  init : σ → Prop
  arrives : π → Prop
  advance : σ → π → σ → π → Prop
  external : σ → σ → Prop

/-- The shared state and the parties in order of arrival. -/
structure Configuration (σ π : Type) where
  shared : σ
  parties : List π

namespace Interleaving

variable (system : Interleaving σ π)

inductive Step : Configuration σ π → Configuration σ π → Prop
  | arrive {s : σ} {parties : List π} {p : π} (harrives : system.arrives p) :
      Step ⟨s, parties⟩ ⟨s, parties ++ [p]⟩
  | advance {s s' : σ} {before after : List π} {p p' : π}
      (hadvance : system.advance s p s' p') :
      Step ⟨s, before ++ p :: after⟩ ⟨s', before ++ p' :: after⟩
  | external {s s' : σ} {parties : List π} (hexternal : system.external s s') :
      Step ⟨s, parties⟩ ⟨s', parties⟩

inductive Reachable : Configuration σ π → Prop
  | init {s : σ} (hinit : system.init s) : Reachable ⟨s, []⟩
  | step {c c' : Configuration σ π} (hreach : Reachable c) (hstep : system.Step c c') :
      Reachable c'

variable {system}

/-- What holds at the start and survives every step from a reachable configuration holds
in every reachable configuration. -/
theorem Reachable.invariant {P : Configuration σ π → Prop}
    (hinit : ∀ s, system.init s → P ⟨s, []⟩)
    (hstep : ∀ c c', system.Reachable c → P c → system.Step c c' → P c')
    {c : Configuration σ π} (hreach : system.Reachable c) : P c := by
  induction hreach with
  | init hs => exact hinit _ hs
  | step hprev hnext ih => exact hstep _ _ hprev ih hnext

/-- A property of the shared state and one of every party, each step relying on both. -/
theorem Reachable.shared_and_parties {S : σ → Prop} {J : π → Prop}
    (hinit : ∀ s, system.init s → S s) (harrives : ∀ p, system.arrives p → J p)
    (hadvance : ∀ s p s' p', S s → J p → system.advance s p s' p' → S s' ∧ J p')
    (hexternal : ∀ s s', S s → system.external s s' → S s')
    {c : Configuration σ π} (hreach : system.Reachable c) :
    S c.shared ∧ ∀ p ∈ c.parties, J p := by
  apply hreach.invariant (P := fun c => S c.shared ∧ ∀ p ∈ c.parties, J p)
  · intro s hs
    exact ⟨hinit s hs, by simp⟩
  · intro c c' _ hprev hstep
    obtain ⟨hshared, hparties⟩ := hprev
    cases hstep with
    | arrive hp =>
        refine ⟨hshared, ?_⟩
        intro q hq
        rcases List.mem_append.mp hq with hq | hq
        · exact hparties q hq
        · rw [List.mem_singleton.mp hq]
          exact harrives _ hp
    | @advance s s' before after p p' hmove =>
        obtain ⟨hshared', hp'⟩ := hadvance s p s' p' hshared (hparties p (by simp)) hmove
        refine ⟨hshared', ?_⟩
        intro q hq
        simp only [List.mem_append, List.mem_cons] at hq hparties
        rcases hq with hq | hq | hq
        · exact hparties q (Or.inl hq)
        · rw [hq]
          exact hp'
        · exact hparties q (Or.inr (Or.inr hq))
    | external hmove => exact ⟨hexternal _ _ hshared hmove, hparties⟩

end Interleaving

/-! ## Totals -/

/-- What the parties hold together. -/
def total (weight : π → Nat) (parties : List π) : Nat := (parties.map weight).sum

@[simp] theorem total_nil (weight : π → Nat) : total weight [] = 0 := rfl

@[simp] theorem total_cons (weight : π → Nat) (p : π) (parties : List π) :
    total weight (p :: parties) = weight p + total weight parties := by
  simp [total]

@[simp] theorem total_append (weight : π → Nat) (front back : List π) :
    total weight (front ++ back) = total weight front + total weight back := by
  simp [total]

theorem total_le_total {weight weight' : π → Nat} (hle : ∀ p, weight p ≤ weight' p)
    (parties : List π) : total weight parties ≤ total weight' parties :=
  List.sum_le_sum fun p _ => hle p

theorem total_le_mul {weight : π → Nat} {n : Nat} (hle : ∀ p, weight p ≤ n) (parties : List π) :
    total weight parties ≤ n * parties.length := by
  induction parties with
  | nil => exact Nat.le_refl 0
  | cons p parties ih =>
      rw [total_cons, List.length_cons, Nat.mul_succ, Nat.add_comm]
      exact Nat.add_le_add ih (hle p)

/-- Weights of zero and one count. -/
theorem total_eq_countP (held : π → Bool) (parties : List π) :
    total (fun p => (held p).toNat) parties = parties.countP held := by
  induction parties with
  | nil => rfl
  | cons p parties ih =>
      rw [total_cons, ih, List.countP_cons]
      cases held p <;> simp [Nat.add_comm]

/-- An amount of which every party takes its weight from the shared state, and gives it
back there, is the same in every reachable configuration. -/
theorem Interleaving.Reachable.conserved {system : Interleaving σ π} {amount : σ → Nat}
    {weight : π → Nat} {n : Nat} (hinit : ∀ s, system.init s → amount s = n)
    (harrives : ∀ p, system.arrives p → weight p = 0)
    (hadvance : ∀ s p s' p', system.advance s p s' p' →
      amount s' + weight p' = amount s + weight p)
    (hexternal : ∀ s s', system.external s s' → amount s' = amount s)
    {c : Configuration σ π} (hreach : system.Reachable c) :
    amount c.shared + total weight c.parties = n := by
  apply hreach.invariant (P := fun c => amount c.shared + total weight c.parties = n)
  · intro s hs
    simpa using hinit s hs
  · intro c c' _ hprev hstep
    cases hstep with
    | arrive hp =>
        have hweight := harrives _ hp
        simpa [hweight] using hprev
    | advance hmove =>
        have hmoved := hadvance _ _ _ _ hmove
        simp only [total_append, total_cons] at hprev ⊢
        omega
    | external hmove =>
        have hmoved := hexternal _ _ hmove
        simp only at hprev ⊢
        omega

/-- What is taken stays below what is given, if no step takes more than it gives: the amounts of
the shared state, and the weights that the parties take and give. -/
theorem Interleaving.Reachable.balance {system : Interleaving σ π} (taken given : σ → Nat)
    (takes gives : π → Nat) (hinit : ∀ s, system.init s → taken s ≤ given s)
    (harrives : ∀ p, system.arrives p → takes p ≤ gives p)
    (hadvance : ∀ s p s' p', system.advance s p s' p' →
      taken s' + takes p' + (given s + gives p) ≤ taken s + takes p + (given s' + gives p'))
    (hexternal : ∀ s s', system.external s s' → taken s' + given s ≤ taken s + given s')
    {c : Configuration σ π} (hreach : system.Reachable c) :
    taken c.shared + total takes c.parties ≤ given c.shared + total gives c.parties := by
  apply hreach.invariant (P := fun c =>
    taken c.shared + total takes c.parties ≤ given c.shared + total gives c.parties)
  · intro s hs
    simpa using hinit s hs
  · intro c c' _ hprev hstep
    cases hstep with
    | arrive hp =>
        have htakes := harrives _ hp
        simp only [total_append, total_cons, total_nil, Nat.add_zero] at hprev ⊢
        omega
    | advance hmove =>
        have hmoved := hadvance _ _ _ _ hmove
        simp only [total_append, total_cons] at hprev ⊢
        omega
    | external hmove =>
        have hmoved := hexternal _ _ hmove
        simp only at hprev ⊢
        omega

/-! ## Runs of the parties -/

namespace Interleaving

variable (system : Interleaving σ π)

/-- A run of the parties that are there, by the number of their steps. The shared state may
move on its own in between. -/
inductive Advances : Nat → Configuration σ π → Configuration σ π → Prop
  | refl {c : Configuration σ π} : Advances 0 c c
  | advance {n : Nat} {s s' : σ} {before after : List π} {p p' : π} {c : Configuration σ π}
      (hadvance : system.advance s p s' p')
      (hrest : Advances n ⟨s', before ++ p' :: after⟩ c) :
      Advances (n + 1) ⟨s, before ++ p :: after⟩ c
  | external {n : Nat} {s s' : σ} {parties : List π} {c : Configuration σ π}
      (hexternal : system.external s s') (hrest : Advances n ⟨s', parties⟩ c) :
      Advances n ⟨s, parties⟩ c

/-- A party that has a step to make. -/
def Moves (s : σ) (p : π) : Prop := ∃ s' p', system.advance s p s' p'

variable {system} {n : Nat} {c c' : Configuration σ π}

theorem Advances.reachable (hrun : system.Advances n c c') (hreach : system.Reachable c) :
    system.Reachable c' := by
  induction hrun with
  | refl => exact hreach
  | advance hadvance _ ih => exact ih (hreach.step (.advance hadvance))
  | external hexternal _ ih => exact ih (hreach.step (.external hexternal))

/-- A run pays for each step from the ranks of the parties. -/
theorem Advances.add_total_rank_le {rank : π → Nat}
    (hrank : ∀ s p s' p', system.advance s p s' p' → rank p' < rank p)
    (hrun : system.Advances n c c') : n + total rank c'.parties ≤ total rank c.parties := by
  induction hrun with
  | refl => exact Nat.le_of_eq (Nat.zero_add _)
  | advance hadvance _ ih =>
      have hless := hrank _ _ _ _ hadvance
      simp only [total_append, total_cons] at ih ⊢
      omega
  | external _ _ ih => exact ih

/-- What the parties hold together stays, if each party keeps what it holds. -/
theorem Advances.total_eq {weight : π → Nat}
    (hweight : ∀ s p s' p', system.advance s p s' p' → weight p' = weight p)
    (hrun : system.Advances n c c') : total weight c'.parties = total weight c.parties := by
  induction hrun with
  | refl => rfl
  | advance hadvance _ ih =>
      rw [ih, total_append, total_cons, total_append, total_cons, hweight _ _ _ _ hadvance]
  | external _ _ ih => exact ih

/-- Where steps take rank, the parties can always run until none of them moves. -/
theorem exists_quiet {rank : π → Nat}
    (hrank : ∀ s p s' p', system.advance s p s' p' → rank p' < rank p)
    (c : Configuration σ π) :
    ∃ n c', system.Advances n c c' ∧ ∀ p ∈ c'.parties, ¬ system.Moves c'.shared p := by
  induction hn : total rank c.parties using Nat.strong_induction_on generalizing c with
  | _ n ih =>
      by_cases hquiet : ∀ p ∈ c.parties, ¬ system.Moves c.shared p
      · exact ⟨0, c, .refl, hquiet⟩
      · simp only [not_forall, not_not] at hquiet
        -- let some party that can move do so, and go on with less rank
        obtain ⟨p, hmem, s', p', hadvance⟩ := hquiet
        obtain ⟨s, parties⟩ := c
        obtain ⟨before, after, rfl⟩ := List.append_of_mem hmem
        have hless := hrank _ _ _ _ hadvance
        have hdown : total rank (before ++ p' :: after) < n := by
          simp only [total_append, total_cons] at hn ⊢
          omega
        obtain ⟨k, c', hrun, hdone⟩ := ih _ hdown ⟨s', before ++ p' :: after⟩ rfl
        exact ⟨k + 1, c', .advance hadvance hrun, hdone⟩

end Interleaving

end RethCosmos.Concurrency
