import Mathlib.Data.List.Basic
import RethCosmos.Encoding.BigEndian

/-!
# Byte strings

Owned byte strings, which no allocation lets grow past the largest slice length, and
arrays of exactly `n` bytes.
-/

namespace RethCosmos.Encoding

/-- An owned byte string. No slice is longer than `isize::MAX` bytes. -/
@[ext] structure Bytes where
  data : List UInt8
  length_lt : data.length < 2 ^ 63
  deriving DecidableEq

namespace Bytes

def length (bytes : Bytes) : Nat := bytes.data.length

/-- Copy a slice. The bound on slices is part of the type, so nothing is cut off
from a slice that can exist. -/
def copyFromSlice (slice : List UInt8) : Bytes where
  data := slice.take (2 ^ 63 - 1)
  length_lt := by rw [List.length_take]; omega

@[simp] theorem copyFromSlice_data {slice : List UInt8} (h : slice.length < 2 ^ 63) :
    (copyFromSlice slice).data = slice :=
  List.take_of_length_le (by omega)

@[simp] theorem copyFromSlice_self (bytes : Bytes) : copyFromSlice bytes.data = bytes :=
  Bytes.ext (copyFromSlice_data bytes.length_lt)

end Bytes

/-- An array of exactly `n` bytes. -/
@[ext] structure FixedBytes (n : Nat) where
  data : List UInt8
  length_eq : data.length = n
  deriving DecidableEq

namespace FixedBytes

variable {n : Nat}

/-- `<[u8; n]>::try_from`. -/
def ofSlice? (n : Nat) (slice : List UInt8) : Option (FixedBytes n) :=
  if h : slice.length = n then some ⟨slice, h⟩ else none

theorem ofSlice?_eq_some_iff {slice : List UInt8} {bytes : FixedBytes n} :
    ofSlice? n slice = some bytes ↔ bytes.data = slice := by
  unfold ofSlice?
  split
  next h =>
    simp only [Option.some.injEq]
    constructor
    · intro heq
      exact congrArg FixedBytes.data heq.symm
    · intro heq
      exact FixedBytes.ext heq.symm
  next h =>
    simp only [reduceCtorEq, false_iff]
    intro heq
    subst heq
    exact h bytes.length_eq

@[simp] theorem ofSlice?_data (bytes : FixedBytes n) : ofSlice? n bytes.data = some bytes :=
  ofSlice?_eq_some_iff.mpr rfl

/-- The array holding the low `n` bytes of a number, most significant first. -/
def ofNat (n value : Nat) : FixedBytes n := ⟨beBytes n value, beBytes_length n value⟩

end FixedBytes

end RethCosmos.Encoding
