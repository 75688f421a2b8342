import Mathlib.Data.List.Basic

/-!
# Closures with a state

`Iterator::map` with a closure that changes what it captured, run to the end of the iterator.
What an item is mapped to depends on the state in which the items before it leave the closure.
-/

namespace RethCosmos.Rust

variable {σ α β γ δ : Type}

/-- `map` over an `FnMut` closure. -/
def mapMut (f : σ → α → β × σ) : σ → List α → List β
  | _, [] => []
  | s, a :: rest => (f s a).1 :: mapMut f (f s a).2 rest

/-- The state in which the items leave the closure. -/
def stateAfter (f : σ → α → β × σ) (s : σ) (items : List α) : σ :=
  items.foldl (fun s a => (f s a).2) s

variable {f : σ → α → β × σ}

@[simp] theorem length_mapMut (s : σ) (items : List α) :
    (mapMut f s items).length = items.length := by
  induction items generalizing s with
  | nil => rfl
  | cons a rest ih => rw [mapMut, List.length_cons, List.length_cons, ih]

/-- One pass maps an item as the closure does in the state after the items before it. -/
theorem getElem?_mapMut (s : σ) (items : List α) (i : Nat) :
    (mapMut f s items)[i]? = items[i]?.map fun a => (f (stateAfter f s (items.take i)) a).1 := by
  induction items generalizing s i with
  | nil => rfl
  | cons a rest ih =>
      cases i with
      | zero => rfl
      | succ i => exact ih (f s a).2 i

/-- What does not depend on the state is mapped as by a function. -/
theorem map_mapMut {g : β → γ} {h : α → γ} (hsame : ∀ s a, g (f s a).1 = h a) (s : σ)
    (items : List α) : (mapMut f s items).map g = items.map h := by
  induction items generalizing s with
  | nil => rfl
  | cons a rest ih => rw [mapMut, List.map_cons, List.map_cons, hsame, ih]

/-- A closure that counts its items. -/
theorem mapMut_counter {g : α → Nat → β} (first : Nat) (items : List α) :
    mapMut (fun next a => (g a next, next + 1)) first items =
      (items.zipIdx first).map fun entry => g entry.1 entry.2 := by
  induction items generalizing first with
  | nil => rfl
  | cons a rest ih => rw [mapMut, List.zipIdx_cons, List.map_cons, ih]

/-- If every item is a list of parts, which it numbers from the state on and adds to the state,
then all parts are numbered in a row. -/
theorem flatMap_mapMut_counter {f : Nat → α → β × Nat} {parts : α → List γ} {out : β → List δ}
    {number : γ × Nat → δ}
    (hout : ∀ next a, out (f next a).1 = ((parts a).zipIdx next).map number)
    (hnext : ∀ next a, (f next a).2 = next + (parts a).length) (first : Nat) (items : List α) :
    (mapMut f first items).flatMap out = ((items.flatMap parts).zipIdx first).map number := by
  induction items generalizing first with
  | nil => rfl
  | cons a rest ih =>
      rw [mapMut, List.flatMap_cons, List.flatMap_cons, List.zipIdx_append, List.map_append,
        hout, hnext, ih]

end RethCosmos.Rust
