import RethCosmos.Evm
import RethCosmos.Pool

/-!
# Prices and costs

The price of gas is computed from the transaction for receipts, from the transaction
environment during execution, and as a tip when a payload is built. The cost is computed
from the transaction by the pool and from the environment before execution.
-/

namespace RethCosmos

open Encoding Rust Upstream CosmosAuth Primitives

namespace TxEnv

variable {R : Type} (env : TxEnv R)

/-- The price the EVM charges. For dynamic fee transactions the gas price is a maximum. -/
def effectiveGasPrice (baseFee : U64) : U128 :=
  if env.txType = 0 ∨ env.txType = 1 then env.gasPrice
  else
    match env.gasPriorityFee with
    | none => env.gasPrice
    | some priorityFee => umin env.gasPrice (saturatingAdd (baseFee.setWidth 128) priorityFee)

/-- The balance the EVM asks of the caller of a transaction without blobs, an error if it
overflows. The product of limit and price is formed in `width` bits. -/
def maxBalanceSpending (width : Nat) : Option U256 :=
  let gasCost := env.gasLimit.toNat * env.gasPrice.toNat
  if gasCost < 2 ^ width ∧ gasCost + env.value.toNat < 2 ^ 256 then
    some (BitVec.ofNat 256 (gasCost + env.value.toNat))
  else none

end TxEnv

/-! ## The price -/

section Price

variable {maxFee priorityFee : U128} {baseFee : U64}

/-- The two formulas of the price are the one minimum, and neither of them overflows. -/
theorem toNat_calcEffectiveGasPrice (hpays : baseFee.toNat ≤ maxFee.toNat) :
    (calcEffectiveGasPrice maxFee priorityFee (some baseFee)).toNat =
      min maxFee.toNat (baseFee.toNat + priorityFee.toNat) := by
  have hwide := toNat_widen (by decide : 64 ≤ 128) baseFee
  have hmax := maxFee.isLt
  have htip : saturatingSub maxFee (baseFee.setWidth 128) > priorityFee ↔
      priorityFee.toNat < maxFee.toNat - baseFee.toNat := by
    rw [gt_iff_lt, BitVec.lt_def, toNat_saturatingSub, hwide]
  simp only [calcEffectiveGasPrice, htip]
  split
  next hcapped =>
    rw [BitVec.toNat_add_of_lt, hwide]
    · omega
    · omega
  next hall => omega

theorem toNat_price_of_env {R : Type} {env : TxEnv R} (htype : env.txType = 2)
    (hpriority : env.gasPriorityFee = some priorityFee) :
    (env.effectiveGasPrice baseFee).toNat =
      min env.gasPrice.toNat (baseFee.toNat + priorityFee.toNat) := by
  have hwide := toNat_widen (by decide : 64 ≤ 128) baseFee
  have hmax := env.gasPrice.isLt
  have hdynamic : ¬ ((2 : U8) = 0 ∨ (2 : U8) = 1) := by decide
  simp only [TxEnv.effectiveGasPrice, htype, hdynamic, if_false, hpriority]
  rw [toNat_umin, toNat_saturatingAdd, hwide]
  -- a sum that saturates is above every maximum
  omega

end Price

/-! ## The cost -/

theorem toNat_cost {gasLimit : U64} {maxFee : U128} {value : U256}
    (hfits : gasLimit.toNat * maxFee.toNat + value.toNat < 2 ^ 256) :
    (saturatingAdd (saturatingMul (maxFee.setWidth 256) (gasLimit.setWidth 256)) value).toNat =
      gasLimit.toNat * maxFee.toNat + value.toNat := by
  have hfee := toNat_widen (by decide : 128 ≤ 256) maxFee
  have hgas := toNat_widen (by decide : 64 ≤ 256) gasLimit
  rw [toNat_saturatingAdd, toNat_saturatingMul, hfee, hgas, Nat.mul_comm maxFee.toNat]
  omega

/-- The environment of a Cosmos transaction exists for its own account only. -/
theorem eq_cosmosTxEnv_of_fromRecoveredTx {T R : Type} [Inhabited R] [FromRecoveredTx T R]
    {tx : CosmosSigned} {caller : Address} {env : TxEnv R}
    (henv : fromRecoveredTx (CosmosEnvelope.cosmos (T := T) tx) caller = .ok env) :
    env = cosmosTxEnv tx.operation caller := by
  simp only [fromRecoveredTx, Outcome.bind_eq_ok_iff, Outcome.pure_eq_ok, Outcome.ok.injEq] at henv
  obtain ⟨_, _, heq⟩ := henv
  exact heq.symm

open Sample in
/-- The upstream environment of the two sample transactions. -/
instance sampleTxEnv : FromRecoveredTx Eth Unit where
  fromRecoveredTx tx caller :=
    .ok
      { txType := BitVec.ofNat 8 (ty tx).toNat
        caller := caller
        gasLimit := gasLimit tx
        gasPrice := maxFeePerGas tx
        kind := .call (FixedBytes.ofNat 20 0x2000)
        value := value tx
        data := input tx
        nonce := nonce tx
        chainId := chainId tx
        gasPriorityFee := maxPriorityFeePerGas tx
        rest := () }

end RethCosmos
