import RethCosmos.Rust.Loop

/-!
# Streams that listen

A run of a loop that keeps a label for each of its turns, and a loop over a stream that is
told something in each turn and hands out the next item with that in mind. The loop over
such a stream is the loop over the list of the items it happens to hand out, and what the
stream promises of the items behind a call holds of the rest of the run.
-/

namespace RethCosmos.Rust

variable {ε σ β τ κ φ ι : Type}

/-! ## Labelled runs -/

/-- A run of steps, each with the item it is a turn for and the label of what happened. -/
inductive Run (step : σ → β → φ → σ → Prop) : σ → List (β × φ) → σ → Prop
  | nil {s : σ} : Run step s [] s
  | cons {s middle s' : σ} {item : β} {label : φ} {steps : List (β × φ)}
      (hstep : step s item label middle) (hrest : Run step middle steps s') :
      Run step s ((item, label) :: steps) s'

namespace Run

variable {step : σ → β → φ → σ → Prop} {s s' : σ} {steps : List (β × φ)}

/-- A list to which each step adds what its label says. -/
theorem collects {entries : σ → List ι} {made : β × φ → List ι}
    (hstep : ∀ s item label s', step s item label s' →
      entries s' = entries s ++ made (item, label))
    (hrun : Run step s steps s') : entries s' = entries s ++ steps.flatMap made := by
  induction hrun with
  | nil => exact (List.append_nil _).symm
  | @cons s middle s' item label steps hone _ ih =>
      rw [ih, hstep s item label middle hone, List.append_assoc]
      rfl

/-- A loop is a run, if each of its turns has a label. -/
theorem of_loop {body : σ → β → Outcome ε σ} {items : List β}
    (hturn : ∀ s item s', body s item = .ok s' → ∃ label, step s item label s')
    (hloop : Outcome.loop body s items = .ok s') :
    ∃ steps, Run step s steps s' ∧ steps.map Prod.fst = items := by
  induction items generalizing s with
  | nil =>
      obtain rfl : s = s' := Outcome.ok.inj hloop
      exact ⟨[], .nil, rfl⟩
  | cons item items ih =>
      obtain ⟨middle, hbody, hrest⟩ := Outcome.loop_cons_eq_ok_iff.mp hloop
      obtain ⟨label, hlabel⟩ := hturn s item middle hbody
      obtain ⟨steps, hrun, rfl⟩ := ih hrest
      exact ⟨(item, label) :: steps, .cons hlabel hrun, rfl⟩

/-- A run is a loop, if each of its steps is a turn. -/
theorem loop_eq_ok {body : σ → β → Outcome ε σ}
    (hstep : ∀ s item label s', step s item label s' → body s item = .ok s')
    (hrun : Run step s steps s') : Outcome.loop body s (steps.map Prod.fst) = .ok s' := by
  induction hrun with
  | nil => rfl
  | cons hone _ ih => exact Outcome.loop_cons_eq_ok_iff.mpr ⟨_, hstep _ _ _ _ hone, ih⟩

/-- Where the step of an item is determined, so is the run of a list of items. -/
theorem unique {s'' : σ} {steps' : List (β × φ)}
    (hstep : ∀ s item label label' s' s'', step s item label s' → step s item label' s'' →
      label = label' ∧ s' = s'')
    (hrun : Run step s steps s') (hrun' : Run step s steps' s'')
    (hitems : steps.map Prod.fst = steps'.map Prod.fst) : steps = steps' ∧ s' = s'' := by
  induction hrun generalizing steps' with
  | nil =>
      obtain rfl := List.map_eq_nil_iff.mp hitems.symm
      cases hrun' with
      | nil => exact ⟨rfl, rfl⟩
  | cons hone _ ih =>
      cases hrun' with
      | nil => simp at hitems
      | cons hone' hrest' =>
          simp only [List.map_cons, List.cons.injEq] at hitems
          obtain ⟨rfl, hrest⟩ := hitems
          obtain ⟨rfl, rfl⟩ := hstep _ _ _ _ _ _ hone hone'
          obtain ⟨rfl, rfl⟩ := ih hrest' hrest
          exact ⟨rfl, rfl⟩

end Run

/-! ## Streams -/

/-- An iterator that can be told something between two items. -/
structure LiveStream (τ β κ : Type) where
  next : τ → Option (β × τ)
  tell : τ → κ → τ

namespace LiveStream

variable (stream : LiveStream τ β κ)

/-- An item that the stream may still hand out, whatever it is told meanwhile. -/
inductive MayYield : τ → β → Prop
  | now {t t' : τ} {item : β} (hnext : stream.next t = some (item, t')) : MayYield t item
  | later {t t' : τ} {first item : β} (hnext : stream.next t = some (first, t'))
      (hmay : MayYield t' item) : MayYield t item
  | told {t : τ} {call : κ} {item : β} (hmay : MayYield (stream.tell t call) item) :
      MayYield t item

/-- What holds of every item that is handed out behind a call. -/
def Promises (promise : κ → β → Prop) : Prop :=
  ∀ t call item, stream.MayYield (stream.tell t call) item → promise call item

/-- `while let Some(item) = stream.next()` with a body that tells the stream the calls of its
turn. There is no result if the stream has not ended within the fuel. -/
def drive (body : σ → β → Outcome ε σ) (calls : σ → σ → List κ) :
    Nat → τ → σ → Outcome ε (Option σ)
  | 0, _, _ => .ok none
  | fuel + 1, t, s =>
      match stream.next t with
      | none => .ok (some s)
      | some (item, t) => do
          let s' ← body s item
          drive body calls fuel ((calls s s').foldl stream.tell t) s'

variable {stream}

theorem MayYield.of_foldl {calls : List κ} {t : τ} {item : β}
    (hmay : stream.MayYield (calls.foldl stream.tell t) item) : stream.MayYield t item := by
  induction calls generalizing t with
  | nil => exact hmay
  | cons call calls ih => exact .told (ih hmay)

/-- A promise is kept behind calls that come after the one it was given for. -/
theorem Promises.of_foldl {promise : κ → β → Prop} (hpromises : stream.Promises promise)
    {calls : List κ} {t : τ} {item : β}
    (hmay : stream.MayYield (calls.foldl stream.tell t) item) :
    ∀ call ∈ calls, promise call item := by
  induction calls generalizing t with
  | nil => simp
  | cons first calls ih =>
      -- the promise of the first call outlasts the others, since they are only more calls
      have hrest : stream.MayYield (calls.foldl stream.tell (stream.tell t first)) item := hmay
      intro call hmem
      rcases List.mem_cons.mp hmem with rfl | hmem
      · exact hpromises t call item hrest.of_foldl
      · exact ih hrest call hmem

/-- The loop over a stream is a run over the items it hands out, and behind each call the items
are as the stream promises. -/
theorem run_of_drive {body : σ → β → Outcome ε σ} {calls : σ → σ → List κ}
    {step : σ → β → φ → σ → Prop} {told : β → φ → List κ} {promise : κ → β → Prop}
    (hpromises : stream.Promises promise)
    (hturn : ∀ s item s', body s item = .ok s' →
      ∃ label, step s item label s' ∧ calls s s' = told item label)
    {fuel : Nat} {t : τ} {s s' : σ}
    (hdrive : stream.drive body calls fuel t s = .ok (some s')) :
    ∃ steps, Run step s steps s' ∧ (∀ turn ∈ steps, stream.MayYield t turn.1) ∧
      steps.Pairwise fun earlier later => ∀ call ∈ told earlier.1 earlier.2, promise call later.1 := by
  induction fuel generalizing t s with
  | zero => simp [drive] at hdrive
  | succ fuel ih =>
      unfold drive at hdrive
      split at hdrive
      next =>
        obtain rfl := Option.some.inj (Outcome.ok.inj hdrive)
        exact ⟨[], .nil, by simp, .nil⟩
      next item t' hnext =>
        obtain ⟨middle, hbody, hrest⟩ := Outcome.bind_eq_ok_iff.mp hdrive
        -- the first turn, and by induction the run over what is handed out behind its calls
        obtain ⟨label, hstep, hcalls⟩ := hturn s item middle hbody
        obtain ⟨steps, hrun, hmay, hpairs⟩ := ih hrest
        refine ⟨(item, label) :: steps, .cons hstep hrun, ?_, ?_⟩
        · intro turn hmem
          rcases List.mem_cons.mp hmem with rfl | hmem
          · exact .now hnext
          · exact .later hnext (hmay turn hmem).of_foldl
        · refine List.pairwise_cons.mpr ⟨?_, hpairs⟩
          intro later hmem
          have hkept := hpromises.of_foldl (hmay later hmem)
          rw [hcalls] at hkept
          exact hkept

/-! ## Streams of a list -/

/-- The stream of a list that drops what a call does not keep. -/
def filtering (keeps : κ → β → Bool) : LiveStream (List β) β κ where
  next
    | [] => none
    | item :: items => some (item, items)
  tell items call := items.filter (keeps call)

variable {keeps : κ → β → Bool}

theorem MayYield.mem_of_filtering {items : List β} {item : β}
    (hmay : (filtering keeps).MayYield items item) : item ∈ items := by
  induction hmay with
  | @now items rest item hnext =>
      cases items with
      | nil => simp [filtering] at hnext
      | cons first items =>
          obtain ⟨rfl, rfl⟩ := Option.some.inj hnext
          exact List.mem_cons_self
  | @later items rest first item hnext _ ih =>
      cases items with
      | nil => simp [filtering] at hnext
      | cons head items =>
          obtain ⟨rfl, rfl⟩ := Option.some.inj hnext
          exact List.mem_cons_of_mem _ ih
  | told _ ih => exact List.mem_of_mem_filter ih

theorem filtering_promises (keeps : κ → β → Bool) :
    (filtering keeps).Promises fun call item => keeps call item = true := by
  intro items call item hmay
  exact List.of_mem_filter hmay.mem_of_filtering

theorem length_foldl_tell_le (keeps : κ → β → Bool) (calls : List κ) (items : List β) :
    (calls.foldl (filtering keeps).tell items).length ≤ items.length := by
  induction calls generalizing items with
  | nil => exact le_rfl
  | cons call calls ih => exact (ih _).trans (List.length_filter_le _ _)

/-- A turn for each item is enough. -/
theorem drive_filtering_ne_none {body : σ → β → Outcome ε σ} {calls : σ → σ → List κ}
    {fuel : Nat} {items : List β} (hfuel : items.length < fuel) (s : σ) :
    (filtering keeps).drive body calls fuel items s ≠ .ok none := by
  induction fuel generalizing items s with
  | zero => exact absurd hfuel (Nat.not_lt_zero _)
  | succ fuel ih =>
      cases items with
      | nil => simp [drive, filtering]
      | cons item items =>
          intro hdrive
          obtain ⟨s', _, hrest⟩ := Outcome.bind_eq_ok_iff.mp hdrive
          refine ih ?_ s' hrest
          have hle := length_foldl_tell_le keeps (calls s s') items
          exact hle.trans_lt (Nat.lt_of_succ_lt_succ hfuel)

end LiveStream

end RethCosmos.Rust
