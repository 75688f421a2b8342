import RethCosmos.Rust.Integer
import RethCosmos.Upstream.Transaction

/-!
# Accessors of transactions

The accessors of the `Transaction` trait that fees, gas and blobs are computed from, and
what the trait provides on top of them.
-/

namespace RethCosmos.Upstream

open Encoding Rust

class TransactionAccessors (α : Type) extends Transaction α where
  chainId : α → Option (BitVec 64)
  nonce : α → BitVec 64
  gasLimit : α → BitVec 64
  gasPrice : α → Option (BitVec 128)
  maxFeePerGas : α → BitVec 128
  maxPriorityFeePerGas : α → Option (BitVec 128)
  maxFeePerBlobGas : α → Option (BitVec 128)
  priorityFeeOrPrice : α → BitVec 128
  effectiveGasPrice : α → Option (BitVec 64) → BitVec 128
  isDynamicFee : α → Bool
  value : α → BitVec 256
  blobVersionedHashes : α → Option (List (FixedBytes 32))

export TransactionAccessors
  (chainId nonce gasLimit gasPrice maxFeePerGas maxPriorityFeePerGas maxFeePerBlobGas
    priorityFeeOrPrice effectiveGasPrice isDynamicFee value blobVersionedHashes)

/-- The gas of one blob, `2 ^ 17`. -/
def dataGasPerBlob : Nat := 131072

/-- The EIP-1559 price: the tip on top of the base fee, as far as the maximum allows. -/
def calcEffectiveGasPrice (maxFeePerGas maxPriorityFeePerGas : BitVec 128)
    (baseFee : Option (BitVec 64)) : BitVec 128 :=
  match baseFee with
  | none => maxFeePerGas
  | some baseFee =>
      let tip := saturatingSub maxFeePerGas (baseFee.setWidth 128)
      if tip > maxPriorityFeePerGas then maxPriorityFeePerGas + baseFee.setWidth 128
      else maxFeePerGas

section

variable {α : Type} [TransactionAccessors α]

/-- What the block producer gets for a unit of gas, if the transaction pays the base fee. -/
def effectiveTipPerGas (tx : α) (baseFee : BitVec 64) : Option (BitVec 128) :=
  let baseFee := baseFee.setWidth 128
  if maxFeePerGas tx < baseFee then none
  else
    let fee := maxFeePerGas tx - baseFee
    match maxPriorityFeePerGas tx with
    | some priorityFee => some (umin fee priorityFee)
    | none => some fee

def blobCount (tx : α) : Option Nat := (blobVersionedHashes tx).map List.length

def blobGasUsed (tx : α) : Option Nat := (blobCount tx).map (· * dataGasPerBlob)

theorem effectiveTipPerGas_isSome_iff {tx : α} {baseFee : BitVec 64} :
    (effectiveTipPerGas tx baseFee).isSome ↔ baseFee.toNat ≤ (maxFeePerGas tx).toNat := by
  have hwide := toNat_widen (by decide : 64 ≤ 128) baseFee
  simp only [effectiveTipPerGas, BitVec.lt_def, hwide]
  split
  next hlow => simpa using hlow
  next hnot =>
    have hle := Nat.not_lt.mp hnot
    split
    next => simpa using hle
    next => simpa using hle

/-- The tip is the surplus over the base fee, capped where the transaction names a cap. -/
theorem toNat_effectiveTipPerGas {tx : α} {baseFee : BitVec 64} {tip : BitVec 128}
    (htip : effectiveTipPerGas tx baseFee = some tip) :
    tip.toNat =
      match maxPriorityFeePerGas tx with
      | some priorityFee =>
          min priorityFee.toNat ((maxFeePerGas tx).toNat - baseFee.toNat)
      | none => (maxFeePerGas tx).toNat - baseFee.toNat := by
  have hwide := toNat_widen (by decide : 64 ≤ 128) baseFee
  have hpays := effectiveTipPerGas_isSome_iff.mp (Option.isSome_of_eq_some htip)
  have hsurplus : (maxFeePerGas tx - baseFee.setWidth 128).toNat =
      (maxFeePerGas tx).toNat - baseFee.toNat := by
    rw [BitVec.toNat_sub_of_le, hwide]
    rwa [BitVec.le_def, hwide]
  have hnot : ¬ maxFeePerGas tx < baseFee.setWidth 128 := by
    rwa [BitVec.lt_def, hwide, Nat.not_lt]
  simp only [effectiveTipPerGas, hnot, if_false] at htip
  split at htip
  next priorityFee hpriority =>
    obtain rfl := Option.some.inj htip
    rw [toNat_umin, hsurplus, Nat.min_comm]
  next hpriority =>
    obtain rfl := Option.some.inj htip
    exact hsurplus

end

end RethCosmos.Upstream
