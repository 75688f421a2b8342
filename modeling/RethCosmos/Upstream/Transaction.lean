import RethCosmos.Encoding.Bytes
import RethCosmos.Rust.Result

/-!
# Transactions of the wrapped envelope

What the node asks of a transaction type besides its encoding, the recoverable
signature every envelope stores, and the five standard transaction types.
-/

namespace RethCosmos.Upstream

open Encoding Rust

/-- A signature with its recovery parity. -/
structure Signature where
  r : BitVec 256
  s : BitVec 256
  v : Bool
  deriving DecidableEq

/-- A 256-bit integer of at most 32 bytes. -/
def fromBeSlice (slice : List UInt8) : BitVec 256 := BitVec.ofNat 256 (ofBe slice)

/-- Both scalars in 32 big-endian bytes, then the parity offset by 27. -/
def Signature.asBytes (signature : Signature) : List UInt8 :=
  beBytes 32 signature.r.toNat ++ beBytes 32 signature.s.toNat ++
    [if signature.v then 28 else 27]

inductive RecoveryError
  | mk
  deriving DecidableEq, Repr

class Transaction (α : Type) where
  input : α → Bytes

class TxHashRef (α : Type) where
  txHash : α → FixedBytes 32

/-- The four ways to ask for the signer. Two of them may use the caller's buffer. -/
class SignerRecoverable (α : Type) where
  recoverSigner : α → Outcome RecoveryError (FixedBytes 20)
  recoverSignerUnchecked : α → Outcome RecoveryError (FixedBytes 20)
  recoverWithBuf : α → List UInt8 → Outcome RecoveryError (FixedBytes 20) × List UInt8
  recoverUncheckedWithBuf : α → List UInt8 → Outcome RecoveryError (FixedBytes 20) × List UInt8

export Transaction (input)
export TxHashRef (txHash)
export SignerRecoverable
  (recoverSigner recoverSignerUnchecked recoverWithBuf recoverUncheckedWithBuf)

/-! ## Standard types -/

inductive TxType
  | legacy
  | eip2930
  | eip1559
  | eip4844
  | eip7702
  deriving DecidableEq, Repr

namespace TxType

def toU8 : TxType → UInt8
  | legacy => 0
  | eip2930 => 1
  | eip1559 => 2
  | eip4844 => 3
  | eip7702 => 4

def tryFrom (value : UInt8) : Option TxType :=
  [legacy, eip2930, eip1559, eip4844, eip7702].find? (·.toU8 = value)

@[simp] theorem tryFrom_toU8 (ty : TxType) : tryFrom ty.toU8 = some ty := by
  cases ty <;> decide

theorem toU8_of_tryFrom {value : UInt8} {ty : TxType} (h : tryFrom value = some ty) :
    ty.toU8 = value := by
  simpa using List.find?_some h

end TxType

/-! ## Signatures in bytes -/

namespace Signature

theorem scalar_lt (x : BitVec 256) : x.toNat < 256 ^ 32 := by
  have hlt := x.isLt
  omega

/-- The leading 64 bytes are the two scalars. -/
theorem take_asBytes (signature : Signature) :
    signature.asBytes.take 64 =
      beBytes 32 signature.r.toNat ++ beBytes 32 signature.s.toNat := by
  rw [asBytes]
  exact List.take_left' (by simp)

theorem take_asBytes_length (signature : Signature) : (signature.asBytes.take 64).length = 64 := by
  rw [take_asBytes]
  simp

/-- 64 bytes as two scalars and no parity. -/
def ofScalars (bytes : List UInt8) : Signature :=
  ⟨fromBeSlice (bytes.take 32), fromBeSlice (bytes.drop 32), false⟩

theorem beBytes_fromBeSlice {bytes : List UInt8} (h : bytes.length = 32) :
    beBytes 32 (fromBeSlice bytes).toNat = bytes := by
  have hlt := ofBe_lt bytes
  rw [h] at hlt
  rw [fromBeSlice, BitVec.toNat_ofNat, Nat.mod_eq_of_lt (by omega)]
  simpa [h] using beBytes_ofBe bytes

/-- Splitting 64 bytes into scalars loses nothing. -/
theorem take_asBytes_ofScalars {bytes : List UInt8} (h : bytes.length = 64) :
    (ofScalars bytes).asBytes.take 64 = bytes := by
  have hr : (bytes.take 32).length = 32 := List.length_take_of_le (by omega)
  have hs : (bytes.drop 32).length = 32 := by rw [List.length_drop]; omega
  rw [take_asBytes, ofScalars, beBytes_fromBeSlice hr, beBytes_fromBeSlice hs,
    List.take_append_drop]

theorem ofScalars_take_asBytes {signature : Signature} (hv : signature.v = false) :
    ofScalars (signature.asBytes.take 64) = signature := by
  obtain ⟨r, s, v⟩ := signature
  simp only at hv
  subst hv
  rw [take_asBytes, ofScalars, List.take_left' (beBytes_length 32 _),
    List.drop_left' (beBytes_length 32 _), fromBeSlice, fromBeSlice,
    ofBe_beBytes (scalar_lt r), ofBe_beBytes (scalar_lt s)]
  simp

end Signature

end RethCosmos.Upstream
