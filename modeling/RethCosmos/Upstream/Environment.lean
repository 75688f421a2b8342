import RethCosmos.Upstream.Engine
import RethCosmos.Upstream.Transaction

/-!
# EVM environments

What the executor of a block is configured with, apart from the block: the rules of the
chain at the time of the block, and the fields that transactions can ask for.
-/

namespace RethCosmos.Upstream

open Encoding Rust

variable {α H V S : Type}

/-! ## Chains -/

/-- The specifications of the EVM, in order of the forks. -/
class SpecId (S : Type) extends LE S where
  merge : S
  decidableLE : DecidableLE S

instance SpecId.instDecidableLE [SpecId S] : DecidableLE S := SpecId.decidableLE

/-- The blob parameters of a fork, as far as the EVM is configured by them. -/
structure EvmBlobParams where
  maxBlobsPerTx : BitVec 64
  calcBlobFee : BitVec 64 → BitVec 128

/-- The rules of a chain at a timestamp. -/
structure EvmChainSpec (S : Type) where
  chainId : BitVec 64
  revmSpecByTimestampAndBlockNumber : BitVec 64 → BitVec 64 → S
  blobParamsAtTimestamp : BitVec 64 → Option EvmBlobParams
  isOsakaActiveAtTimestamp : BitVec 64 → Bool

/-- The gas limit of a transaction from Osaka on, `MAX_TX_GAS_LIMIT_OSAKA`. -/
def maxTxGasLimitOsaka : BitVec 64 := 16777216

/-! ## Environments -/

/-- The configuration, without what follows from the specification. -/
@[ext] structure CfgEnv (S : Type) where
  chainId : BitVec 64
  spec : S
  maxBlobsPerTx : Option (BitVec 64)
  txGasLimitCap : Option (BitVec 64)
  deriving DecidableEq

structure BlobExcessGasAndPrice where
  excessBlobGas : BitVec 64
  blobGasprice : BitVec 128
  deriving DecidableEq

@[ext] structure BlockEnv where
  number : BitVec 256
  beneficiary : FixedBytes 20
  timestamp : BitVec 256
  difficulty : BitVec 256
  prevrandao : Option (FixedBytes 32)
  gasLimit : BitVec 64
  basefee : BitVec 64
  blobExcessGasAndPrice : Option BlobExcessGasAndPrice
  slotNum : BitVec 64
  deriving DecidableEq

@[ext] structure EvmEnv (S : Type) where
  cfgEnv : CfgEnv S
  blockEnv : BlockEnv
  deriving DecidableEq

/-- Both are there, or there is no price. -/
def blobExcessGasAndPrice (excessBlobGas : Option (BitVec 64)) (params : Option EvmBlobParams) :
    Option BlobExcessGasAndPrice :=
  match excessBlobGas, params with
  | some excessBlobGas, some params => some ⟨excessBlobGas, params.calcBlobFee excessBlobGas⟩
  | _, _ => none

/-! ## Sources -/

/-- The fields of a header that an environment is made of. -/
class EnvHeader (H : Type) extends EngineHeader H where
  number : H → BitVec 64
  timestamp : H → BitVec 64
  beneficiary : H → FixedBytes 20
  difficulty : H → BitVec 256
  mixHash : H → FixedBytes 32
  gasLimit : H → BitVec 64
  baseFeePerGas : H → Option (BitVec 64)
  excessBlobGas : H → Option (BitVec 64)

/-- The fields of a payload that an environment is made of. -/
class EnvPayload (V : Type) extends ExecutionPayload V where
  blockNumber : V → BitVec 64
  timestamp : V → BitVec 64
  feeRecipient : V → FixedBytes 20
  prevRandao : V → FixedBytes 32
  gasLimit : V → BitVec 64
  baseFeePerGas : V → BitVec 256
  /-- From Cancun on. -/
  excessBlobGas : V → Option (BitVec 64)

def EnvPayload.saturatedBaseFeePerGas [EnvPayload V] (payload : V) : BitVec 64 :=
  saturatingTo 64 (EnvPayload.baseFeePerGas payload)

/-- What is documented of the conversion of a block: a payload with an excess is made of a block
with a beacon root, and a field that the header lacks is zero. -/
structure FromBlockUncheckedWithExtras.EnvDocumented (V α H : Type) [EnvPayload V] [EnvHeader H]
    [FromBlockUncheckedWithExtras V (H × BlockBody α H)] : Prop where
  blockNumber : ∀ hash (header : H) (body : BlockBody α H) bal,
    EnvPayload.blockNumber (fromBlockUncheckedWithExtras (V := V) hash (header, body) bal).1 =
      EnvHeader.number header
  timestamp : ∀ hash (header : H) (body : BlockBody α H) bal,
    EnvPayload.timestamp (fromBlockUncheckedWithExtras (V := V) hash (header, body) bal).1 =
      EnvHeader.timestamp header
  feeRecipient : ∀ hash (header : H) (body : BlockBody α H) bal,
    EnvPayload.feeRecipient (fromBlockUncheckedWithExtras (V := V) hash (header, body) bal).1 =
      EnvHeader.beneficiary header
  prevRandao : ∀ hash (header : H) (body : BlockBody α H) bal,
    EnvPayload.prevRandao (fromBlockUncheckedWithExtras (V := V) hash (header, body) bal).1 =
      EnvHeader.mixHash header
  gasLimit : ∀ hash (header : H) (body : BlockBody α H) bal,
    EnvPayload.gasLimit (fromBlockUncheckedWithExtras (V := V) hash (header, body) bal).1 =
      EnvHeader.gasLimit header
  baseFeePerGas : ∀ hash (header : H) (body : BlockBody α H) bal,
    EnvPayload.baseFeePerGas (fromBlockUncheckedWithExtras (V := V) hash (header, body) bal).1 =
      ((EnvHeader.baseFeePerGas header).getD 0).setWidth 256
  excessBlobGas : ∀ hash (header : H) (body : BlockBody α H) bal,
    EnvPayload.excessBlobGas (fromBlockUncheckedWithExtras (V := V) hash (header, body) bal).1 =
      (EngineHeader.parentBeaconBlockRoot header).map fun _ =>
        (EnvHeader.excessBlobGas header).getD 0

/-- The EVM configuration of Ethereum, with the environment it makes of a header. -/
structure EthEvmConfig (H S : Type) where
  chainSpec : EvmChainSpec S
  evmEnv : H → EvmEnv S

/-- What is documented of the environment of a header. -/
structure EthEvmConfig.Documented [SpecId S] [EnvHeader H] (config : EthEvmConfig H S) : Prop where
  chainId : ∀ header, (config.evmEnv header).cfgEnv.chainId = config.chainSpec.chainId
  spec : ∀ header, (config.evmEnv header).cfgEnv.spec =
    config.chainSpec.revmSpecByTimestampAndBlockNumber (EnvHeader.timestamp header)
      (EnvHeader.number header)
  maxBlobsPerTx : ∀ header, (config.evmEnv header).cfgEnv.maxBlobsPerTx =
    (config.chainSpec.blobParamsAtTimestamp (EnvHeader.timestamp header)).map
      EvmBlobParams.maxBlobsPerTx
  txGasLimitCap : ∀ header, (config.evmEnv header).cfgEnv.txGasLimitCap =
    if config.chainSpec.isOsakaActiveAtTimestamp (EnvHeader.timestamp header) then
      some maxTxGasLimitOsaka
    else none
  number : ∀ header, (config.evmEnv header).blockEnv.number =
    (EnvHeader.number header).setWidth 256
  beneficiary : ∀ header, (config.evmEnv header).blockEnv.beneficiary =
    EnvHeader.beneficiary header
  timestamp : ∀ header, (config.evmEnv header).blockEnv.timestamp =
    (EnvHeader.timestamp header).setWidth 256
  /-- From the merge on, the mix hash of a header is not a proof of work. -/
  difficulty : ∀ header, (config.evmEnv header).blockEnv.difficulty =
    if SpecId.merge ≤ (config.evmEnv header).cfgEnv.spec then 0
    else EnvHeader.difficulty header
  prevrandao : ∀ header, (config.evmEnv header).blockEnv.prevrandao =
    if SpecId.merge ≤ (config.evmEnv header).cfgEnv.spec then some (EnvHeader.mixHash header)
    else none
  gasLimit : ∀ header, (config.evmEnv header).blockEnv.gasLimit = EnvHeader.gasLimit header
  basefee : ∀ header, (config.evmEnv header).blockEnv.basefee =
    (EnvHeader.baseFeePerGas header).getD 0
  blobExcessGasAndPrice : ∀ header, (config.evmEnv header).blockEnv.blobExcessGasAndPrice =
    Upstream.blobExcessGasAndPrice (EnvHeader.excessBlobGas header)
      (config.chainSpec.blobParamsAtTimestamp (EnvHeader.timestamp header))
  slotNum : ∀ header, (config.evmEnv header).blockEnv.slotNum =
    (EngineHeader.slotNumber header).getD 0

end RethCosmos.Upstream
