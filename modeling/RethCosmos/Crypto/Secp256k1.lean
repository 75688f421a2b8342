import RethCosmos.Encoding.Bytes
import Mathlib.Tactic.NormNum

/-!
# Signatures over secp256k1

The scalar pair of an ECDSA signature, read from its fixed-size encoding, and the
test for the low half of the scalars. Hashing, point decoding and verification
themselves are uninterpreted.
-/

namespace RethCosmos.Crypto

open Encoding

/-- The order of the group. -/
def order : Nat := 0xfffffffffffffffffffffffffffffffebaaedce6af48a03bbfd25e8cd0364141

/-- Two scalars, both nonzero. -/
@[ext] structure Signature where
  r : Nat
  s : Nat
  one_le_r : 1 ≤ r
  r_lt : r < order
  one_le_s : 1 ≤ s
  s_lt : s < order

/-- Hashes, point decoding and signature verification. -/
class Suite where
  VerifyingKey : Type
  sha256 : List UInt8 → FixedBytes 32
  ripemd160 : List UInt8 → FixedBytes 20
  keccak256 : List UInt8 → FixedBytes 32
  fromSec1Bytes : List UInt8 → Option VerifyingKey
  verify : VerifyingKey → List UInt8 → Signature → Bool

theorem order_lt : order < 256 ^ 32 := by norm_num [order]

theorem order_odd : order = 2 * ((order - 1) / 2) + 1 := by norm_num [order]

namespace Signature

/-- Two 32-byte scalars, neither of which is zero or at least the order. -/
def fromSlice (slice : List UInt8) : Option Signature :=
  let r := ofBe (slice.take 32)
  let s := ofBe (slice.drop 32)
  if h : slice.length = 64 ∧ (1 ≤ r ∧ r < order) ∧ (1 ≤ s ∧ s < order) then
    some ⟨r, s, h.2.1.1, h.2.1.2, h.2.2.1, h.2.2.2⟩
  else none

/-- A scalar in the high half is replaced by its negation. -/
def normalizeS (signature : Signature) : Option Signature :=
  if signature.s > (order - 1) / 2 then
    some { signature with
      s := order - signature.s
      one_le_s := Nat.sub_pos_of_lt signature.s_lt
      s_lt := Nat.sub_lt (by decide) signature.one_le_s }
  else none

/-- The encoding with the second scalar negated, which verifies for the same message. -/
def malleate (slice : List UInt8) : List UInt8 :=
  slice.take 32 ++ beBytes 32 (order - ofBe (slice.drop 32))

theorem fromSlice_eq_some_iff {slice : List UInt8} {signature : Signature} :
    fromSlice slice = some signature ↔
      slice.length = 64 ∧ ofBe (slice.take 32) = signature.r ∧
        ofBe (slice.drop 32) = signature.s := by
  unfold fromSlice
  constructor
  · intro hread
    simp only [Option.dite_none_right_eq_some, Option.some.injEq] at hread
    obtain ⟨⟨hlength, _, _⟩, rfl⟩ := hread
    exact ⟨hlength, rfl, rfl⟩
  · intro hparts
    obtain ⟨hlength, hr, hs⟩ := hparts
    -- the bounds are those of the scalars that were read
    have hbounds : (1 ≤ ofBe (slice.take 32) ∧ ofBe (slice.take 32) < order) ∧
        (1 ≤ ofBe (slice.drop 32) ∧ ofBe (slice.drop 32) < order) := by
      rw [hr, hs]
      exact ⟨⟨signature.one_le_r, signature.r_lt⟩, signature.one_le_s, signature.s_lt⟩
    simp only [hlength, hbounds, and_self, dite_true, Option.some.injEq]
    exact Signature.ext hr hs

theorem normalizeS_isSome_iff {signature : Signature} :
    signature.normalizeS.isSome ↔ (order - 1) / 2 < signature.s := by
  unfold normalizeS
  by_cases hhigh : signature.s > (order - 1) / 2 <;> simp [hhigh]

/-- The order is odd, so the negation of a low scalar is high. -/
theorem high_of_malleate {slice : List UInt8} {low high : Signature}
    (hlow : fromSlice slice = some low) (hs : low.s ≤ (order - 1) / 2)
    (hhigh : fromSlice (malleate slice) = some high) : (order - 1) / 2 < high.s := by
  obtain ⟨hlength, _, hread⟩ := fromSlice_eq_some_iff.mp hlow
  obtain ⟨_, _, hread'⟩ := fromSlice_eq_some_iff.mp hhigh
  have htake : (slice.take 32).length = 32 := List.length_take_of_le (by omega)
  have hmax : order - ofBe (slice.drop 32) < 256 ^ 32 := (Nat.sub_le _ _).trans_lt order_lt
  rw [malleate, List.drop_append_of_le_length htake.ge, List.drop_eq_nil_of_le htake.le,
    List.nil_append, ofBe_beBytes hmax, hread] at hread'
  have hodd := order_odd
  have hpos := low.one_le_s
  omega

end Signature

end RethCosmos.Crypto
