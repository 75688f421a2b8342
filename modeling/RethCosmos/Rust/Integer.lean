import Mathlib.Algebra.BigOperators.Ring.List
import Mathlib.Algebra.Order.BigOperators.Group.List
import Mathlib.Algebra.Ring.Nat

/-!
# Fixed-width unsigned integers

The operations of Rust's unsigned integers that do not wrap, and when the plain ones do
not wrap either. Every operation is described by the natural numbers it computes.
-/

namespace RethCosmos.Rust

variable {w : Nat}

def saturatingAdd (x y : BitVec w) : BitVec w :=
  if x.toNat + y.toNat < 2 ^ w then x + y else BitVec.allOnes w

def saturatingSub (x y : BitVec w) : BitVec w := if y ≤ x then x - y else 0

def saturatingMul (x y : BitVec w) : BitVec w :=
  if x.toNat * y.toNat < 2 ^ w then x * y else BitVec.allOnes w

/-- `Ord::min`. -/
def umin (x y : BitVec w) : BitVec w := if x ≤ y then x else y

/-- `saturating_to`, a conversion to a narrower type. -/
def saturatingTo (v : Nat) (x : BitVec w) : BitVec v :=
  if x.toNat < 2 ^ v then x.setWidth v else BitVec.allOnes v

/-! ## Values -/

theorem toNat_saturatingAdd (x y : BitVec w) :
    (saturatingAdd x y).toNat = min (x.toNat + y.toNat) (2 ^ w - 1) := by
  unfold saturatingAdd
  split
  next hfits =>
    rw [BitVec.toNat_add_of_lt hfits]
    exact (Nat.min_eq_left (Nat.le_pred_of_lt hfits)).symm
  next hover =>
    rw [BitVec.toNat_allOnes]
    exact (Nat.min_eq_right (Nat.sub_le_of_le_add (by omega))).symm

theorem toNat_saturatingSub (x y : BitVec w) : (saturatingSub x y).toNat = x.toNat - y.toNat := by
  unfold saturatingSub
  split
  next hle => exact BitVec.toNat_sub_of_le hle
  next hlt =>
    rw [BitVec.le_def, Nat.not_le] at hlt
    rw [Nat.sub_eq_zero_of_le (Nat.le_of_lt hlt)]
    exact BitVec.toNat_zero

theorem toNat_saturatingMul (x y : BitVec w) :
    (saturatingMul x y).toNat = min (x.toNat * y.toNat) (2 ^ w - 1) := by
  unfold saturatingMul
  split
  next hfits =>
    rw [BitVec.toNat_mul_of_lt hfits]
    exact (Nat.min_eq_left (Nat.le_pred_of_lt hfits)).symm
  next hover =>
    rw [BitVec.toNat_allOnes]
    exact (Nat.min_eq_right (Nat.sub_le_of_le_add (by omega))).symm

theorem toNat_umin (x y : BitVec w) : (umin x y).toNat = min x.toNat y.toNat := by
  unfold umin
  split
  next hle => exact (Nat.min_eq_left hle).symm
  next hnot =>
    rw [BitVec.le_def, Nat.not_le] at hnot
    exact (Nat.min_eq_right (Nat.le_of_lt hnot)).symm

/-- A value that fits is kept by a conversion to a wider type. -/
theorem toNat_widen {v : Nat} (hwider : w ≤ v) (x : BitVec w) : (x.setWidth v).toNat = x.toNat :=
  BitVec.toNat_setWidth_of_le hwider

/-- What was widened is narrowed without loss. -/
theorem saturatingTo_widen {v : Nat} (hwider : w ≤ v) (x : BitVec w) :
    saturatingTo w (x.setWidth v) = x := by
  have hfits : (x.setWidth v).toNat < 2 ^ w := by
    rw [toNat_widen hwider]
    exact x.isLt
  apply BitVec.eq_of_toNat_eq
  rw [saturatingTo, if_pos hfits, BitVec.toNat_setWidth, toNat_widen hwider,
    Nat.mod_eq_of_lt x.isLt]

/-! ## Counters -/

/-- A counter that holds the exact sum of the amounts added to it, and is within its limit. -/
structure Counts (limit counter : BitVec w) (amounts : List Nat) : Prop where
  exact : counter.toNat = amounts.sum
  le : counter.toNat ≤ limit.toNat

namespace Counts

variable {limit counter amount : BitVec w} {amounts : List Nat}

theorem zero (limit : BitVec w) : Counts limit 0 [] where
  exact := BitVec.toNat_zero
  le := by
    rw [show (0 : BitVec w).toNat = 0 from BitVec.toNat_zero]
    exact Nat.zero_le _

/-- An amount that fits what is left neither wraps the counter nor takes it past its limit. -/
theorem add (h : Counts limit counter amounts)
    (hleft : amount.toNat ≤ limit.toNat - counter.toNat) :
    Counts limit (counter + amount) (amounts ++ [amount.toNat]) := by
  have hle := h.le
  have hfits : counter.toNat + amount.toNat ≤ limit.toNat := by omega
  have hadd : (counter + amount).toNat = counter.toNat + amount.toNat :=
    BitVec.toNat_add_of_lt (Nat.lt_of_le_of_lt hfits limit.isLt)
  constructor
  · rw [hadd, h.exact, List.sum_append, List.sum_singleton]
  · rw [hadd]
    exact hfits

end Counts

end RethCosmos.Rust
