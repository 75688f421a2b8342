import Mathlib.Data.List.Basic
import Mathlib.Order.Basic

/-!
# Self-delimiting codecs

An encoder and a decoder that consumes a prefix of its input. A codec is exact
when the decoder accepts precisely the encodings of valid values and hands back
whatever follows them. Exactness makes the encodings prefix-free, so items can be
written back to back and read again without any further framing.
-/

namespace RethCosmos.Encoding

universe u v w

/-- A decoder takes a value off the front of its input or fails. -/
abbrev Decoder (ε : Type u) (σ : Type v) (α : Type w) :=
  List σ → Except ε (α × List σ)

variable {ε : Type*} {σ : Type*} {α : Type*} {β : Type*}

/-- Read a value and parse it further; the bytes are consumed either way. -/
def Decoder.parse (dec : Decoder ε σ α) (parse : α → Except ε β) : Decoder ε σ β :=
  fun input =>
    match dec input with
    | .error e => .error e
    | .ok (a, rest) =>
        match parse a with
        | .error e => .error e
        | .ok b => .ok (b, rest)

/-- Every valid value is read back from its encoding, whatever follows it. -/
def RoundTrips (valid : α → Prop) (enc : α → List σ) (dec : Decoder ε σ α) : Prop :=
  ∀ a rest, valid a → dec (enc a ++ rest) = .ok (a, rest)

/-- The decoder accepts exactly the encodings of valid values. -/
structure Exact (valid : α → Prop) (enc : α → List σ) (dec : Decoder ε σ α) : Prop where
  complete : RoundTrips valid enc dec
  sound : ∀ {input a rest}, dec input = .ok (a, rest) → valid a ∧ input = enc a ++ rest

section RoundTrips

variable {valid : α → Prop} {enc : α → List σ} {dec : Decoder ε σ α}

/-- Neighbouring items cannot trade bytes: the boundary after an encoding is
determined by the encoded value. -/
theorem RoundTrips.append_inj (h : RoundTrips valid enc dec) {a b : α} {r s : List σ}
    (ha : valid a) (hb : valid b) (heq : enc a ++ r = enc b ++ s) : a = b ∧ r = s := by
  have hread : Except.ok (ε := ε) (a, r) = .ok (b, s) := by
    rw [← h a r ha, heq, h b s hb]
  simpa using hread

theorem RoundTrips.inj (h : RoundTrips valid enc dec) {a b : α}
    (ha : valid a) (hb : valid b) (heq : enc a = enc b) : a = b :=
  (h.append_inj (r := []) (s := []) ha hb (by rw [heq])).1

end RoundTrips

namespace Exact

variable {valid : α → Prop} {enc : α → List σ} {dec : Decoder ε σ α}

/-- Parsing the values of an exact codec further keeps it exact when the parser
accepts exactly the renderings of valid values. -/
theorem refine (h : Exact valid enc dec) {valid' : β → Prop} {render : β → α}
    {parse : α → Except ε β} (hvalid : ∀ b, valid' b → valid (render b))
    (hparse : ∀ b, valid' b → parse (render b) = .ok b)
    (hrender : ∀ {a b}, valid a → parse a = .ok b → valid' b ∧ render b = a) :
    Exact valid' (fun b => enc (render b)) (dec.parse parse) where
  complete := by
    intro b rest hb
    simp [Decoder.parse, h.complete (render b) rest (hvalid b hb), hparse b hb]
  sound := by
    intro input b rest hread
    unfold Decoder.parse at hread
    split at hread
    next => simp at hread
    next a rest' hdec =>
      split at hread
      next => simp at hread
      next b' hpa =>
        simp only [Except.ok.injEq, Prod.mk.injEq] at hread
        obtain ⟨rfl, rfl⟩ := hread
        obtain ⟨hva, hin⟩ := h.sound hdec
        obtain ⟨hvb, hrend⟩ := hrender hva hpa
        exact ⟨hvb, by rw [hrend]; exact hin⟩

end Exact

/-! ## Reading items until the input is empty -/

/-- Decode one item after another until nothing is left. The result is `none` only
when `fuel` iterations did not reach the end of the input. -/
def decodeMany (dec : Decoder ε σ α) : Nat → List σ → Option (Except ε (List α))
  | _, [] => some (.ok [])
  | 0, _ :: _ => none
  | fuel + 1, input@(_ :: _) =>
      match dec input with
      | .error e => some (.error e)
      | .ok (a, rest) => (decodeMany dec fuel rest).map (Except.map (a :: ·))

/-- A concatenation of nonempty round-tripping items decodes to those items. -/
theorem decodeMany_flatMap {valid : α → Prop} {enc : α → List σ} {dec : Decoder ε σ α}
    (h : RoundTrips valid enc dec) (hne : ∀ a, valid a → enc a ≠ [])
    (items : List α) (hitems : ∀ a ∈ items, valid a) {fuel : Nat}
    (hfuel : items.length ≤ fuel) :
    decodeMany dec fuel (items.flatMap enc) = some (.ok items) := by
  induction items generalizing fuel with
  | nil => cases fuel <;> rfl
  | cons a items ih =>
      rw [List.length_cons] at hfuel
      obtain ⟨fuel, rfl⟩ := Nat.exists_eq_add_of_le' (Nat.one_le_of_lt hfuel)
      have ha : valid a := hitems a List.mem_cons_self
      have htail := ih (fun b hb => hitems b (List.mem_cons_of_mem a hb))
        (Nat.le_of_succ_le_succ hfuel)
      -- the head item is read whatever items follow it, and leaves exactly those
      have hread := h a (items.flatMap enc) ha
      obtain ⟨head, tail, hcons⟩ := List.exists_cons_of_ne_nil (hne a ha)
      rw [List.flatMap_cons]
      rw [hcons, List.cons_append] at hread ⊢
      simp [decodeMany, hread, htail, Except.map]

end RethCosmos.Encoding
