import Mathlib.Algebra.BigOperators.Ring.List
import Mathlib.Algebra.Ring.Nat
import RethCosmos.Rust.Result

/-!
# Loops over a stream

A loop whose body may leave the function, what holds in every state it visits, and loops
that keep accounts of the items they collect: a turn enters one item or leaves the
accounts as they are.
-/

namespace RethCosmos.Rust.Outcome

variable {ε σ β ι τ : Type}

/-- `while let Some(item) = stream.next()`. -/
def loop (body : σ → β → Outcome ε σ) (s : σ) : List β → Outcome ε σ
  | [] => .ok s
  | item :: items => do
      let s ← body s item
      loop body s items

theorem loop_cons_eq_ok_iff {body : σ → β → Outcome ε σ} {s s' : σ} {item : β} {items : List β} :
    loop body s (item :: items) = .ok s' ↔
      ∃ middle, body s item = .ok middle ∧ loop body middle items = .ok s' :=
  bind_eq_ok_iff

theorem loop_append_eq_ok_iff {body : σ → β → Outcome ε σ} {s s' : σ} {front back : List β} :
    loop body s (front ++ back) = .ok s' ↔
      ∃ middle, loop body s front = .ok middle ∧ loop body middle back = .ok s' := by
  induction front generalizing s with
  | nil =>
      constructor
      · intro hback
        exact ⟨s, rfl, hback⟩
      · rintro ⟨middle, hnil, hback⟩
        obtain rfl : s = middle := Outcome.ok.inj hnil
        exact hback
  | cons item front ih =>
      rw [List.cons_append, loop_cons_eq_ok_iff]
      simp only [ih, loop_cons_eq_ok_iff]
      constructor
      · rintro ⟨first, hbody, middle, hfront, hback⟩
        exact ⟨middle, ⟨first, hbody, hfront⟩, hback⟩
      · rintro ⟨middle, ⟨first, hbody, hfront⟩, hback⟩
        exact ⟨first, hbody, middle, hfront, hback⟩

/-- What each turn preserves holds when the loop ends. -/
theorem loop_invariant {body : σ → β → Outcome ε σ} {I : σ → Prop} {items : List β} {s s' : σ}
    (hturn : ∀ s item s', item ∈ items → I s → body s item = .ok s' → I s')
    (hstart : I s) (hloop : loop body s items = .ok s') : I s' := by
  induction items generalizing s with
  | nil =>
      obtain rfl : s = s' := Outcome.ok.inj hloop
      exact hstart
  | cons item items ih =>
      obtain ⟨middle, hbody, hrest⟩ := loop_cons_eq_ok_iff.mp hloop
      apply ih _ (hturn s item middle List.mem_cons_self hstart hbody) hrest
      intro s item' s' hmem
      exact hturn s item' s' (List.mem_cons_of_mem item hmem)

/-- An error of the loop is one of its turns. -/
theorem exists_of_loop_eq_err {body : σ → β → Outcome ε σ} {items : List β} {s : σ} {e : ε}
    (hloop : loop body s items = .err e) : ∃ s, ∃ item ∈ items, body s item = .err e := by
  induction items generalizing s with
  | nil => simp [loop] at hloop
  | cons item items ih =>
      unfold loop at hloop
      cases hbody : body s item with
      | ok middle =>
          rw [hbody] at hloop
          obtain ⟨s', item', hmem, herr⟩ := ih hloop
          exact ⟨s', item', List.mem_cons_of_mem item hmem, herr⟩
      | err e' =>
          rw [hbody] at hloop
          exact ⟨s, item, List.mem_cons_self, hbody.trans hloop⟩
      | panic message => simp [hbody] at hloop

theorem exists_of_loop_eq_panic {body : σ → β → Outcome ε σ} {items : List β} {s : σ}
    {message : String} (hloop : loop body s items = .panic message) :
    ∃ s, ∃ item ∈ items, body s item = .panic message := by
  induction items generalizing s with
  | nil => simp [loop] at hloop
  | cons item items ih =>
      unfold loop at hloop
      cases hbody : body s item with
      | ok middle =>
          rw [hbody] at hloop
          obtain ⟨s', item', hmem, hpanic⟩ := ih hloop
          exact ⟨s', item', List.mem_cons_of_mem item hmem, hpanic⟩
      | err e => simp [hbody] at hloop
      | panic other =>
          rw [hbody] at hloop
          exact ⟨s, item, List.mem_cons_self, hbody.trans hloop⟩

/-! ## Accounts -/

/-- A body that keeps accounts: of each item at most one entry is made, and the totals are
those of the entries. -/
structure KeepsAccounts (body : σ → β → Outcome ε σ) (entries : σ → List ι) (source : ι → β)
    (total : σ → τ) (add : τ → ι → τ) : Prop where
  turn : ∀ {s item s'}, body s item = .ok s' →
    (entries s' = entries s ∧ total s' = total s) ∨
      ∃ entry, source entry = item ∧ entries s' = entries s ++ [entry] ∧
        total s' = add (total s) entry

namespace KeepsAccounts

variable {body : σ → β → Outcome ε σ} {entries : σ → List ι} {source : ι → β} {total : σ → τ}
  {add : τ → ι → τ} (h : KeepsAccounts body entries source total add)
include h

theorem total_eq {items : List β} {s s' : σ} {start : τ}
    (hstart : total s = (entries s).foldl add start) (hloop : loop body s items = .ok s') :
    total s' = (entries s').foldl add start := by
  refine loop_invariant (I := fun s => total s = (entries s).foldl add start) ?_ hstart hloop
  intro s item s' _ hs hbody
  rcases h.turn hbody with ⟨hentries, htotal⟩ | ⟨entry, _, hentries, htotal⟩
  · rw [hentries, htotal, hs]
  · rw [hentries, htotal, hs, List.foldl_append]
    rfl

/-- The entries are made in the order of the stream, at most one for each item. -/
theorem entries_sublist {items : List β} {s s' : σ} (hloop : loop body s items = .ok s') :
    ∃ made, entries s' = entries s ++ made ∧ (made.map source).Sublist items := by
  induction items generalizing s with
  | nil =>
      obtain rfl : s = s' := Outcome.ok.inj hloop
      exact ⟨[], by simp, by simp⟩
  | cons item items ih =>
      obtain ⟨middle, hbody, hrest⟩ := loop_cons_eq_ok_iff.mp hloop
      obtain ⟨made, hmade, hsub⟩ := ih hrest
      rcases h.turn hbody with ⟨hentries, _⟩ | ⟨entry, hsource, hentries, _⟩
      · exact ⟨made, by rw [hmade, hentries], hsub.cons item⟩
      · refine ⟨entry :: made, by rw [hmade, hentries, List.append_assoc]; rfl, ?_⟩
        rw [List.map_cons, hsource]
        exact hsub.cons_cons item

end KeepsAccounts

/-- A measure that grows by the weight of each entry is the sum of the weights. -/
theorem measure_foldl {add : τ → ι → τ} {measure : τ → Nat} {weight : ι → Nat}
    (hadd : ∀ t entry, measure (add t entry) = measure t + weight entry) (start : τ)
    (entries : List ι) :
    measure (entries.foldl add start) = measure start + (entries.map weight).sum := by
  induction entries generalizing start with
  | nil => simp
  | cons entry entries ih =>
      rw [List.foldl_cons, ih, hadd, List.map_cons, List.sum_cons, Nat.add_assoc]

/-- A word that every entry adds to, wrapping, is the wrapped sum. -/
theorem word_foldl {w : Nat} {add : τ → ι → τ} {word : τ → BitVec w} {weight : ι → Nat}
    (hadd : ∀ t entry, word (add t entry) = word t + BitVec.ofNat w (weight entry)) (start : τ)
    (entries : List ι) :
    word (entries.foldl add start) =
      word start + BitVec.ofNat w (entries.map weight).sum := by
  induction entries generalizing start with
  | nil => simp
  | cons entry entries ih =>
      rw [List.foldl_cons, ih, hadd, List.map_cons, List.sum_cons, BitVec.ofNat_add,
        BitVec.add_assoc]

end RethCosmos.Rust.Outcome
