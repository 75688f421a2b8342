import Mathlib.Data.List.Forall2
import Mathlib.Data.List.Nodup
import RethCosmos.Rust.Result

/-!
# JSON objects

Objects as lists of members, with values of any type, and the derived readers of structs:
a field is read from the one member with its key, and members with other keys are passed
over, refused, or collected for a flattened struct.
-/

namespace RethCosmos.Encoding.JsonObject

open Rust

variable {V α : Type}

/-- One member for each line of the object, in the order of the text. -/
abbrev Members (V : Type) := List (String × V)

/-- The value of the one member with this key. -/
def field (key : String) (read : V → Option α) (members : Members V) : Except String α :=
  match members.filter fun m => m.1 = key with
  | [] => .error ("missing field `" ++ key ++ "`")
  | [(_, value)] =>
      match read value with
      | some a => .ok a
      | none => .error ("invalid value of field `" ++ key ++ "`")
  | _ => .error ("duplicate field `" ++ key ++ "`")

/-- `deny_unknown_fields`. -/
def denyUnknown (names : List String) (members : Members V) : Except String Unit :=
  match members.find? fun m => m.1 ∉ names with
  | some (key, _) => .error ("unknown field `" ++ key ++ "`")
  | none => .ok ()

/-- What `flatten` passes to the inner struct: the members with one of its keys. -/
def flatten (names : List String) (members : Members V) : Members V :=
  members.filter fun m => m.1 ∈ names

/-! ## One member -/

/-- The object has one member with this key, and it has this value. -/
def Has (members : Members V) (key : String) (value : V) : Prop :=
  (members.filter fun m => m.1 = key) = [(key, value)]

theorem field_eq_ok_iff {key : String} {read : V → Option α} {members : Members V} {a : α} :
    field key read members = .ok a ↔ ∃ value, Has members key value ∧ read value = some a := by
  unfold field Has
  split
  next hnone => simp [hnone]
  next k value hone =>
    have hkey : k = key := by
      have hmem : (k, value) ∈ members.filter fun m => m.1 = key := by
        rw [hone]
        exact List.mem_singleton_self _
      simpa using (List.mem_filter.mp hmem).2
    subst hkey
    rw [hone]
    split
    next b hread => simp [hread]
    next hread => simp [hread]
  next hmany =>
    simp only [reduceCtorEq, false_iff, not_exists, not_and]
    intro value hone
    exact absurd hone (hmany key value)

theorem Has.field_eq {key : String} {read : V → Option α} {members : Members V} {value : V} {a : α}
    (hhas : Has members key value) (hread : read value = some a) :
    field key read members = .ok a :=
  field_eq_ok_iff.mpr ⟨value, hhas, hread⟩

/-- Distinct keys make every member the only one with its key. -/
theorem has_of_nodup {members : Members V} {key : String} {value : V}
    (hnodup : (members.map Prod.fst).Nodup) (hmem : (key, value) ∈ members) :
    Has members key value := by
  induction members with
  | nil => simp at hmem
  | cons m members ih =>
      obtain ⟨hnot, hnodup⟩ := List.nodup_cons.mp hnodup
      rcases List.mem_cons.mp hmem with heq | hmem
      · have hothers : (members.filter fun m => m.1 = key) = [] := by
          apply List.filter_eq_nil_iff.mpr
          intro m' hm' hkey
          have hmem' := List.mem_map_of_mem (f := Prod.fst) hm'
          rw [of_decide_eq_true hkey] at hmem'
          rw [← heq] at hnot
          exact hnot hmem'
        rw [Has, ← heq, List.filter_cons_of_pos (by simp), hothers]
      · have hother : m.1 ≠ key := by
          intro hkey
          rw [hkey] at hnot
          exact hnot (List.mem_map_of_mem hmem)
        rw [Has, List.filter_cons_of_neg (by simpa using hother)]
        exact ih hnodup hmem

/-- The order of the members does not matter. -/
theorem Has.perm {members members' : Members V} {key : String} {value : V}
    (hhas : Has members key value) (hperm : members'.Perm members) : Has members' key value := by
  have hfiltered := hperm.filter fun m => decide (m.1 = key)
  rw [hhas] at hfiltered
  exact List.perm_singleton.mp hfiltered

/-- Members with other keys do not matter. -/
theorem Has.append {members extra : Members V} {key : String} {value : V}
    (hhas : Has members key value) (hextra : ∀ m ∈ extra, m.1 ≠ key) :
    Has (members ++ extra) key value := by
  have hnone : (extra.filter fun m => m.1 = key) = [] := by
    apply List.filter_eq_nil_iff.mpr
    intro m hm
    simpa using hextra m hm
  rw [Has, List.filter_append, hhas, hnone]
  rfl

/-! ## Flattened structs -/

theorem has_flatten_iff {names : List String} {members : Members V} {key : String} {value : V}
    (hname : key ∈ names) : Has (flatten names members) key value ↔ Has members key value := by
  have hsame : (flatten names members).filter (fun m => m.1 = key) =
      members.filter fun m => m.1 = key := by
    rw [flatten, List.filter_filter]
    apply List.filter_congr
    intro m _
    by_cases hkey : m.1 = key
    · simp [hkey, hname]
    · simp [hkey]
  rw [Has, Has, hsame]

/-- A flattened struct never sees a key it does not know. -/
theorem denyUnknown_flatten (names : List String) (members : Members V) :
    denyUnknown names (flatten names members) = .ok () := by
  have hnone : (flatten names members).find? (fun m => m.1 ∉ names) = none := by
    apply List.find?_eq_none.mpr
    intro m hm
    simpa [flatten] using (List.mem_filter.mp hm).2
  rw [denyUnknown, hnone]

/-! ## Arrays -/

/-- An array is read if each of its items is, into values in the same order. -/
theorem mapM_eq_ok_iff {ε β : Type} {read : α → Except ε β} {items : List α} {values : List β} :
    items.mapM read = .ok values ↔
      List.Forall₂ (fun item value => read item = .ok value) items values := by
  induction items generalizing values with
  | nil =>
      rw [List.mapM_nil, List.forall₂_nil_left_iff, pure_eq_ok, Except.ok.injEq, eq_comm]
  | cons item items ih =>
      simp only [List.mapM_cons, bind_eq_ok_iff, pure_eq_ok, Except.ok.injEq,
        List.forall₂_cons_left_iff, ih]
      constructor
      · rintro ⟨value, hitem, values', hitems, rfl⟩
        exact ⟨value, values', hitem, hitems, rfl⟩
      · rintro ⟨value, values', hitem, hitems, rfl⟩
        exact ⟨value, hitem, values', hitems, rfl⟩

end RethCosmos.Encoding.JsonObject
