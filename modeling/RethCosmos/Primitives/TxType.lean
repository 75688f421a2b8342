import RethCosmos.CosmosAuth.Operation
import RethCosmos.Upstream.CompactEnvelope
import RethCosmos.Upstream.Eip2718

/-!
# Transaction types of the chain

The standard types and the Cosmos type. A type byte can only be built from a supported
value, and is stored under the identifiers of the standard tag.
-/

namespace RethCosmos.Primitives

open Encoding Rust Upstream

def Supported (value : UInt8) : Prop :=
  value = CosmosAuth.txType ∨ (TxType.tryFrom value).isSome

instance : DecidablePred Supported := fun _ => inferInstanceAs (Decidable (_ ∨ _))

@[ext] structure CosmosTxType where
  ty : UInt8
  supported : Supported ty
  deriving DecidableEq

namespace CosmosTxType

def COSMOS : CosmosTxType := ⟨CosmosAuth.txType, Or.inl rfl⟩

def tryFrom (value : UInt8) : Except Eip2718Error CosmosTxType :=
  if h : Supported value then .ok ⟨value, h⟩ else .error (.unexpectedType value)

def ofTxType (ty : TxType) : CosmosTxType := ⟨ty.toU8, Or.inr (by simp)⟩

instance : CompactTag CosmosTxType where
  toCompact ty := if ty.ty < 3 then ([], ty.ty.toNat) else ([ty.ty], 3)
  fromCompact buf identifier := do
    let (ty, rest) ←
      if identifier = 3 then
        let extended ← Outcome.index buf 0
        pure (extended, buf.drop 1)
      else if identifier < 256 then pure (UInt8.ofNat identifier, buf)
      else Outcome.panic "corrupt transaction type"
    let ty ← Outcome.expect (tryFrom ty) "corrupt transaction type"
    return (ty, rest)

theorem tryFrom_ty (ty : CosmosTxType) : tryFrom ty.ty = .ok ty := by
  rw [tryFrom, dif_pos ty.supported]

theorem tryFrom_toU8 (ty : TxType) : tryFrom ty.toU8 = .ok (ofTxType ty) :=
  tryFrom_ty (ofTxType ty)

theorem ofTxType_ne_cosmos (ty : TxType) : ofTxType ty ≠ COSMOS := by
  cases ty <;> decide

/-- The identifier fits the two bits of the head. -/
theorem toCompact_lt (ty : CosmosTxType) : (CompactTag.toCompact ty).2 < 4 := by
  simp only [CompactTag.toCompact]
  split
  next hsmall =>
    have hlt : ty.ty.toNat < 3 := UInt8.lt_iff_toNat_lt.mp hsmall
    omega
  next => exact Nat.lt_succ_self 3

/-- Tags are stored losslessly in front of anything. -/
theorem fromCompact_toCompact (ty : CosmosTxType) (rest : List UInt8) :
    CompactTag.fromCompact ((CompactTag.toCompact ty).1 ++ rest) (CompactTag.toCompact ty).2 =
      .ok (ty, rest) := by
  simp only [CompactTag.toCompact]
  split
  next hsmall =>
    have hlt : ty.ty.toNat < 3 := UInt8.lt_iff_toNat_lt.mp hsmall
    have hne : ty.ty.toNat ≠ 3 := by omega
    have hbyte : ty.ty.toNat < 256 := by omega
    simp [CompactTag.fromCompact, hne, hbyte, tryFrom_ty, Outcome.expect]
  next => simp [CompactTag.fromCompact, Outcome.index, tryFrom_ty, Outcome.expect]

/-- The local tag writes what the standard tag writes. -/
theorem toCompact_ofTxType (ty : TxType) :
    CompactTag.toCompact (ofTxType ty) = CompactTag.toCompact ty := rfl

/-- What the standard tag reads, the local tag reads as the same type. -/
theorem fromCompact_of_txType {buf rest : List UInt8} {identifier : Nat} {ty : TxType}
    (hread : CompactTag.fromCompact buf identifier = .ok (ty, rest)) :
    CompactTag.fromCompact buf identifier = .ok (ofTxType ty, rest) := by
  simp only [CompactTag.fromCompact] at hread ⊢
  by_cases hextended : identifier = 3
  · -- the type is in a byte of its own
    simp only [hextended, if_true] at hread ⊢
    cases buf with
    | nil => simp [Outcome.index] at hread
    | cons b buf =>
        simp only [Outcome.index, List.getElem?_cons_zero, Outcome.ok_bind] at hread ⊢
        split at hread
        next standard hstandard =>
          split at hread
          next => simp at hread
          next =>
            simp only [List.drop_succ_cons, List.drop_zero, Outcome.pure_eq_ok, Outcome.ok.injEq,
              Prod.mk.injEq] at hread
            obtain ⟨rfl, rfl⟩ := hread
            simp [← TxType.toU8_of_tryFrom hstandard, tryFrom_toU8, Outcome.expect]
        next => simp at hread
  · -- the identifier is the type
    simp only [hextended, if_false] at hread ⊢
    split at hread
    next standard hstandard =>
      split at hread
      next hsmall =>
        have hbyte : identifier < 256 := by omega
        simp only [Outcome.pure_eq_ok, Outcome.ok.injEq, Prod.mk.injEq] at hread
        obtain ⟨rfl, rfl⟩ := hread
        simp [hbyte, ← TxType.toU8_of_tryFrom hstandard, tryFrom_toU8, Outcome.expect]
      next => simp at hread
    next => simp at hread

end CosmosTxType

end RethCosmos.Primitives
