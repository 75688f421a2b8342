import Mathlib.Data.List.Basic

/-!
# Results of Rust expressions

Inversion of chains of `?` on `Result`, and evaluation that may also panic. A chain
that ends well gives back each of its intermediate results.
-/

namespace RethCosmos.Rust

universe u

variable {ε α β : Type u}

/-! ## `Result` -/

@[simp] theorem ok_bind (a : α) (f : α → Except ε β) : (Except.ok a >>= f) = f a := rfl

@[simp] theorem error_bind (e : ε) (f : α → Except ε β) : (Except.error e >>= f) = .error e :=
  rfl

@[simp] theorem pure_eq_ok (a : α) : (pure a : Except ε α) = .ok a := rfl

@[simp] theorem throw_eq_error (e : ε) : (throw e : Except ε α) = .error e := rfl

theorem bind_eq_ok_iff {x : Except ε α} {f : α → Except ε β} {b : β} :
    (x >>= f) = .ok b ↔ ∃ a, x = .ok a ∧ f a = .ok b := by
  cases x with
  | error e => simp [bind, Except.bind]
  | ok a => simp [bind, Except.bind]

/-- A guard in front of the rest of a function. -/
theorem ite_error_eq_ok_iff {c : Prop} [Decidable c] {e : ε} {x : Except ε α} {a : α} :
    (if c then .error e else x) = .ok a ↔ ¬ c ∧ x = .ok a := by
  by_cases hc : c <;> simp [hc]

/-- `map_err` on a result that is a value. -/
theorem mapError_eq_ok_iff {δ : Type u} {f : ε → δ} {x : Except ε α} {a : α} :
    x.mapError f = .ok a ↔ x = .ok a := by
  cases x with
  | error e => simp [Except.mapError]
  | ok b => simp [Except.mapError]

/-! ## Evaluation with panics -/

/-- How the evaluation of a Rust expression of type `Result<α, ε>` ends. -/
inductive Outcome (ε α : Type u)
  | ok (a : α)
  | err (e : ε)
  | panic (message : String)
  deriving DecidableEq, Repr

/-- A result that is a value or a panic. -/
abbrev Panicking (α : Type) := Outcome Empty α

namespace Outcome

def bind (x : Outcome ε α) (f : α → Outcome ε β) : Outcome ε β :=
  match x with
  | .ok a => f a
  | .err e => .err e
  | .panic message => .panic message

instance : Monad (Outcome ε) where
  pure := .ok
  bind := Outcome.bind

/-- A call that cannot panic. -/
def ofExcept : Except ε α → Outcome ε α
  | .ok a => .ok a
  | .error e => .err e

/-- `map_err`. -/
def mapErr {δ : Type u} (f : ε → δ) : Outcome ε α → Outcome δ α
  | .ok a => .ok a
  | .err e => .err (f e)
  | .panic message => .panic message

/-- `assert!`. -/
def assert (condition : Prop) [Decidable condition] (message : String) : Outcome ε PUnit :=
  if condition then .ok ⟨⟩ else .panic message

/-- `Result::expect`. -/
def expect {δ : Type u} (x : Except δ α) (message : String) : Outcome ε α :=
  match x with
  | .ok a => .ok a
  | .error _ => .panic message

/-- `Option::expect`. -/
def expectSome (x : Option α) (message : String) : Outcome ε α :=
  match x with
  | some a => .ok a
  | none => .panic message

/-- `Option::ok_or` followed by `?`. -/
def okOr (x : Option α) (e : ε) : Outcome ε α :=
  match x with
  | some a => .ok a
  | none => .err e

/-- Indexing a slice. -/
def index (slice : List α) (i : Nat) : Outcome ε α :=
  match slice[i]? with
  | some a => .ok a
  | none => .panic "index out of bounds"

@[simp] theorem ok_bind (a : α) (f : α → Outcome ε β) : (ok a >>= f) = f a := rfl

@[simp] theorem err_bind (e : ε) (f : α → Outcome ε β) : (err e >>= f) = err e := rfl

@[simp] theorem panic_bind (message : String) (f : α → Outcome ε β) :
    (panic message >>= f) = panic message := rfl

@[simp] theorem pure_eq_ok (a : α) : (pure a : Outcome ε α) = ok a := rfl

theorem bind_eq_ok_iff {x : Outcome ε α} {f : α → Outcome ε β} {b : β} :
    (x >>= f) = .ok b ↔ ∃ a, x = .ok a ∧ f a = .ok b := by
  cases x with
  | ok a => simp
  | err e => simp
  | panic message => simp

/-- An error of a chain is that of the first part or of the rest. -/
theorem bind_eq_err_iff {x : Outcome ε α} {f : α → Outcome ε β} {e : ε} :
    (x >>= f) = .err e ↔ x = .err e ∨ ∃ a, x = .ok a ∧ f a = .err e := by
  cases x with
  | ok a => simp
  | err e' => simp
  | panic message => simp

/-- A loop whose body uses `?` ends well only if every turn does. -/
theorem forM_eq_ok_iff {items : List β} {f : β → Outcome ε PUnit} {u : PUnit} :
    items.forM f = .ok u ↔ ∀ item ∈ items, f item = .ok ⟨⟩ := by
  induction items with
  | nil => simp [List.forM]
  | cons item items ih =>
      have hturn : (item :: items).forM f = (f item >>= fun _ => items.forM f) := rfl
      rw [hturn, bind_eq_ok_iff]
      simp only [ih, List.mem_cons, forall_eq_or_imp]
      constructor
      · intro h
        obtain ⟨_, hitem, hitems⟩ := h
        exact ⟨hitem, hitems⟩
      · intro h
        exact ⟨_, h⟩

/-- A loop whose turns all fail with the same error, if at all, fails with it. -/
theorem forM_eq_err {items : List β} {f : β → Outcome ε PUnit} {e : ε}
    (hturns : ∀ item ∈ items, f item = .ok ⟨⟩ ∨ f item = .err e) {item : β} (hmem : item ∈ items)
    (hfails : f item = .err e) : items.forM f = .err e := by
  induction items with
  | nil => cases hmem
  | cons first items ih =>
      have hturn : (first :: items).forM f = (f first >>= fun _ => items.forM f) := rfl
      rcases hturns first List.mem_cons_self with hfirst | hfirst
      · rw [hturn, hfirst, ok_bind]
        apply ih fun item hmem => hturns item (List.mem_cons_of_mem _ hmem)
        rcases List.mem_cons.mp hmem with rfl | hmem
        · simp [hfails] at hfirst
        · exact hmem
      · rw [hturn, hfirst, err_bind]

theorem mapErr_eq_ok_iff {δ : Type u} {f : ε → δ} {x : Outcome ε α} {a : α} :
    x.mapErr f = .ok a ↔ x = .ok a := by
  cases x <;> simp [mapErr]

theorem assert_eq_ok_iff {condition : Prop} [Decidable condition] {message : String}
    {u : PUnit} : (assert condition message : Outcome ε PUnit) = .ok u ↔ condition := by
  unfold assert
  by_cases hc : condition <;> simp [hc]

theorem expect_eq_ok_iff {δ : Type u} {x : Except δ α} {message : String} {a : α} :
    (expect x message : Outcome ε α) = .ok a ↔ x = .ok a := by
  cases x <;> simp [expect]

theorem ofExcept_eq_ok_iff {x : Except ε α} {a : α} : ofExcept x = .ok a ↔ x = .ok a := by
  cases x <;> simp [ofExcept]

end Outcome

end RethCosmos.Rust
