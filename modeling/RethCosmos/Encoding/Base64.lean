import Mathlib.Data.List.Basic
import Mathlib.Data.List.Nodup

/-!
# Base64

The standard alphabet with padding. Three bytes become four digits; a final group of
one or two bytes is padded, and the pad is no digit, so the bytes can be read back.
-/

namespace RethCosmos.Encoding.Base64

def alphabet : List Char :=
  "ABCDEFGHIJKLMNOPQRSTUVWXYZabcdefghijklmnopqrstuvwxyz0123456789+/".toList

def pad : Char := '='

def digit (n : Nat) : Char := alphabet.getD n pad

def encode : List UInt8 → List Char
  | a :: b :: c :: rest =>
      digit (a.toNat / 4) ::
      digit (a.toNat % 4 * 16 + b.toNat / 16) ::
      digit (b.toNat % 16 * 4 + c.toNat / 64) ::
      digit (c.toNat % 64) :: encode rest
  | [a, b] =>
      [digit (a.toNat / 4), digit (a.toNat % 4 * 16 + b.toNat / 16),
        digit (b.toNat % 16 * 4), pad]
  | [a] => [digit (a.toNat / 4), digit (a.toNat % 4 * 16), pad, pad]
  | [] => []

/-- The number a digit stands for. -/
def value (ch : Char) : Option Nat :=
  if ch ∈ alphabet then some (alphabet.idxOf ch) else none

/-- Groups of four digits, padded at the end only. -/
def decode : List Char → Option (List UInt8)
  | [] => some []
  | w :: x :: y :: z :: rest => do
      let w ← value w
      let x ← value x
      if y = pad ∧ z = pad ∧ rest = [] then
        return [UInt8.ofNat (w * 4 + x / 16)]
      let y ← value y
      if z = pad ∧ rest = [] then
        return [UInt8.ofNat (w * 4 + x / 16), UInt8.ofNat (x * 16 + y / 4)]
      let z ← value z
      let rest ← decode rest
      return UInt8.ofNat (w * 4 + x / 16) :: UInt8.ofNat (x * 16 + y / 4) ::
        UInt8.ofNat (y * 64 + z) :: rest
  | _ => none

theorem alphabet_length : alphabet.length = 64 := by decide

theorem alphabet_nodup : alphabet.Nodup := by decide

theorem digit_eq_get {n : Nat} (hn : n < 64) :
    digit n = alphabet.get ⟨n, alphabet_length ▸ hn⟩ := by
  simp [digit, List.getD_eq_getElem?_getD, List.getElem?_eq_getElem (alphabet_length ▸ hn)]

theorem digit_mem {n : Nat} (hn : n < 64) : digit n ∈ alphabet := by
  rw [digit_eq_get hn]
  exact List.get_mem _ _

theorem value_digit {n : Nat} (hn : n < 64) : value (digit n) = some n := by
  have hmem := digit_mem hn
  rw [value, if_pos hmem, digit_eq_get hn, List.get_eq_getElem, alphabet_nodup.idxOf_getElem]

theorem digit_ne_pad {n : Nat} (hn : n < 64) : digit n ≠ pad := by
  intro heq
  have hmem := digit_mem hn
  rw [heq] at hmem
  exact absurd hmem (by decide)

/-- Every character of an encoding is a digit or the pad. -/
theorem mem_of_mem_encode {bytes : List UInt8} {ch : Char} (hch : ch ∈ encode bytes) :
    ch ∈ alphabet ∨ ch = pad := by
  induction bytes using encode.induct with
  | case1 a b c rest ih =>
      have ha := a.toNat_lt
      have hb := b.toNat_lt
      simp only [encode, List.mem_cons] at hch
      rcases hch with rfl | rfl | rfl | rfl | hrest
      · exact Or.inl (digit_mem (by omega))
      · exact Or.inl (digit_mem (by omega))
      · exact Or.inl (digit_mem (by have := c.toNat_lt; omega))
      · exact Or.inl (digit_mem (by omega))
      · exact ih hrest
  | case2 a b =>
      have ha := a.toNat_lt
      have hb := b.toNat_lt
      simp only [encode, List.mem_cons, List.not_mem_nil, or_false] at hch
      rcases hch with rfl | rfl | rfl | rfl
      · exact Or.inl (digit_mem (by omega))
      · exact Or.inl (digit_mem (by omega))
      · exact Or.inl (digit_mem (by omega))
      · exact Or.inr rfl
  | case3 a =>
      have ha := a.toNat_lt
      simp only [encode, List.mem_cons, List.not_mem_nil, or_false] at hch
      rcases hch with rfl | rfl | rfl | rfl
      · exact Or.inl (digit_mem (by omega))
      · exact Or.inl (digit_mem (by omega))
      · exact Or.inr rfl
      · exact Or.inr rfl
  | case4 => simp [encode] at hch

theorem decode_encode (bytes : List UInt8) : decode (encode bytes) = some bytes := by
  have hbyte : ∀ {n : Nat} {b : UInt8}, n % 256 = b.toNat → UInt8.ofNat n = b := by
    intro n b heq
    exact UInt8.toNat_inj.mp (by rw [UInt8.toNat_ofNat']; exact heq)
  induction bytes using encode.induct with
  | case1 a b c rest ih =>
      have ha := a.toNat_lt
      have hb := b.toNat_lt
      have hc := c.toNat_lt
      have hy := @digit_ne_pad (b.toNat % 16 * 4 + c.toNat / 64) (by omega)
      have hz := @digit_ne_pad (c.toNat % 64) (by omega)
      simp only [encode, decode, hy, hz, false_and, if_false, ih, Option.bind_eq_bind,
        @value_digit (a.toNat / 4) (by omega), Option.bind_some,
        @value_digit (a.toNat % 4 * 16 + b.toNat / 16) (by omega),
        @value_digit (b.toNat % 16 * 4 + c.toNat / 64) (by omega),
        @value_digit (c.toNat % 64) (by omega)]
      rw [hbyte (b := a) (by omega), hbyte (b := b) (by omega), hbyte (b := c) (by omega)]
      rfl
  | case2 a b =>
      have ha := a.toNat_lt
      have hb := b.toNat_lt
      have hy := @digit_ne_pad (b.toNat % 16 * 4) (by omega)
      simp only [encode, decode, hy, false_and, and_self, if_false, if_true,
        Option.bind_eq_bind, Option.bind_some, @value_digit (a.toNat / 4) (by omega),
        @value_digit (a.toNat % 4 * 16 + b.toNat / 16) (by omega),
        @value_digit (b.toNat % 16 * 4) (by omega)]
      rw [hbyte (b := a) (by omega), hbyte (b := b) (by omega)]
      rfl
  | case3 a =>
      have ha := a.toNat_lt
      simp only [encode, decode, and_self, if_true, Option.bind_eq_bind, Option.bind_some,
        @value_digit (a.toNat / 4) (by omega), @value_digit (a.toNat % 4 * 16) (by omega)]
      rw [hbyte (b := a) (by omega)]
      rfl
  | case4 => rfl

theorem encode_injective : Function.Injective encode := by
  intro left right heq
  apply Option.some.inj
  rw [← decode_encode left, heq, decode_encode right]

end RethCosmos.Encoding.Base64
