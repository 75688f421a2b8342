import Mathlib.Data.List.Basic

/-!
# Compact JSON text

String values, arrays and objects, written without whitespace. The serializers of
different languages differ in the characters they escape and in whether they sort
object keys, so both are parameters of the text rather than part of the value.
-/

namespace RethCosmos.Encoding

/-- The UTF-8 bytes of a text. -/
def utf8 (text : List Char) : List UInt8 := text.flatMap String.utf8EncodeChar

theorem utf8_injective : Function.Injective utf8 := by
  intro left right heq
  have hbytes : left.utf8Encode = right.utf8Encode := by
    simp only [List.utf8Encode]
    exact congrArg _ heq
  have hstring : String.ofList left = String.ofList right :=
    String.toByteArray_inj.mp (by rw [String.toByteArray_ofList, String.toByteArray_ofList, hbytes])
  simpa using congrArg String.toList hstring

inductive Json
  | str (text : List Char)
  | arr (items : List Json)
  | obj (members : List (String × Json))

namespace Json

/-- A string literal, each character written by `escape`. -/
def quote (escape : Char → List Char) (text : List Char) : List Char :=
  '"' :: (text.flatMap escape ++ ['"'])

mutual

def render (escape : Char → List Char) : Json → List Char
  | .str text => quote escape text
  | .arr items => '[' :: (renderItems escape items ++ [']'])
  | .obj members => '{' :: (renderMembers escape members ++ ['}'])

def renderItems (escape : Char → List Char) : List Json → List Char
  | [] => []
  | [item] => render escape item
  | item :: items => render escape item ++ ',' :: renderItems escape items

def renderMembers (escape : Char → List Char) : List (String × Json) → List Char
  | [] => []
  | [(key, value)] => quote escape key.toList ++ ':' :: render escape value
  | (key, value) :: members =>
      quote escape key.toList ++ ':' :: (render escape value ++ ',' :: renderMembers escape members)

end

/-! ## Key order -/

/-- Insert a member in front of the first member with a larger key. -/
def insertMember (key : String) (value : Json) : List (String × Json) → List (String × Json)
  | [] => [(key, value)]
  | (key', value') :: members =>
      if key ≤ key' then (key, value) :: (key', value') :: members
      else (key', value') :: insertMember key value members

mutual

/-- The value with the keys of every object in it sorted. -/
def sortKeys : Json → Json
  | .str text => .str text
  | .arr items => .arr (sortItems items)
  | .obj members => .obj (sortMembers members)

def sortItems : List Json → List Json
  | [] => []
  | item :: items => sortKeys item :: sortItems items

def sortMembers : List (String × Json) → List (String × Json)
  | [] => []
  | (key, value) :: members => insertMember key (sortKeys value) (sortMembers members)

end

@[simp] theorem insertMember_nil (key : String) (value : Json) :
    insertMember key value [] = [(key, value)] := rfl

/-- A member in front of a larger one is in place. -/
theorem insertMember_of_le {key key' : String} (h : key ≤ key') (value value' : Json)
    (members : List (String × Json)) :
    insertMember key value ((key', value') :: members) =
      (key, value) :: (key', value') :: members :=
  if_pos h

/-! ## Escapes -/

/-- The escapes every serializer makes: the quote, the backslash and the control
characters below `0x20`. -/
def escapeControl (ch : Char) : List Char :=
  if ch.toNat = 0x22 then ['\\', ch]
  else if ch.toNat = 0x5c then ['\\', ch]
  else if ch.toNat = 0x08 then ['\\', 'b']
  else if ch.toNat = 0x0c then ['\\', 'f']
  else if ch.toNat = 0x0a then ['\\', 'n']
  else if ch.toNat = 0x0d then ['\\', 'r']
  else if ch.toNat = 0x09 then ['\\', 't']
  else if ch.toNat < 0x20 then
    ['\\', 'u', '0', '0'] ++ [Nat.digitChar (ch.toNat / 16), Nat.digitChar (ch.toNat % 16)]
  else [ch]

/-- Printable ASCII that no serializer escapes, `&`, `<` and `>` left out as well. -/
def Plain (ch : Char) : Prop :=
  0x20 ≤ ch.toNat ∧ ch.toNat < 0x7f ∧ ch ∉ ['"', '\\', '&', '<', '>']

instance : DecidablePred Plain := fun _ => inferInstanceAs (Decidable (_ ∧ _ ∧ _))

/-- For texts that are known, the check evaluates. -/
theorem plain_of_all {text : List Char} (h : text.all (fun ch => decide (Plain ch)) = true) :
    ∀ ch ∈ text, Plain ch := fun ch hch => of_decide_eq_true (List.all_eq_true.mp h ch hch)

theorem escapeControl_of_plain {ch : Char} (h : Plain ch) : escapeControl ch = [ch] := by
  obtain ⟨hlow, _, hnot⟩ := h
  simp only [List.mem_cons, List.not_mem_nil, or_false, not_or] at hnot
  have hquote : ch.toNat ≠ 0x22 := fun heq => hnot.1 (Char.toNat_inj.mp heq)
  have hslash : ch.toNat ≠ 0x5c := fun heq => hnot.2.1 (Char.toNat_inj.mp heq)
  unfold escapeControl
  rw [if_neg hquote, if_neg hslash, if_neg (by omega), if_neg (by omega), if_neg (by omega),
    if_neg (by omega), if_neg (by omega), if_neg (by omega)]

/-- Text none of whose characters needs an escape is quoted as it stands. -/
theorem quote_of_plain {escape : Char → List Char} {text : List Char}
    (hplain : ∀ ch ∈ text, escape ch = [ch]) : quote escape text = '"' :: (text ++ ['"']) := by
  have hsame : text.flatMap escape = text := by
    induction text with
    | nil => rfl
    | cons ch text ih =>
        rw [List.flatMap_cons, hplain ch List.mem_cons_self,
          ih (fun c hc => hplain c (List.mem_cons_of_mem ch hc))]
        rfl
  rw [quote, hsame]

end Json

end RethCosmos.Encoding
