import RethCosmos.Upstream.Block
import RethCosmos.Upstream.Pool

/-!
# Execution and payload building

What the payload builder is given by the node around it: the chain specification, the
attributes of the payload, the executor of the block, and the errors all of them end with.
The errors of the upstream crates are of one type `ε`.
-/

namespace RethCosmos.Upstream

open Encoding Rust

variable {α H ε : Type}

/-! ## Chain specification -/

structure BlobParams where
  maxBlobCount : Nat
  deriving DecidableEq

/-- The forks that are active at a timestamp. -/
structure ChainSpec where
  isPragueActiveAtTimestamp : BitVec 64 → Bool
  isOsakaActiveAtTimestamp : BitVec 64 → Bool
  isAmsterdamActiveAtTimestamp : BitVec 64 → Bool
  blobParamsAtTimestamp : BitVec 64 → Option BlobParams

/-- The largest RLP form of a block from Osaka on, `MAX_RLP_BLOCK_SIZE`. -/
class RlpBlockSize where
  max : Nat

/-! ## Attributes -/

structure PayloadAttributes where
  timestamp : BitVec 64
  prevRandao : FixedBytes 32
  suggestedFeeRecipient : FixedBytes 20
  withdrawals : Option (List Withdrawal)
  parentBeaconBlockRoot : Option (FixedBytes 32)
  slotNumber : Option (BitVec 64)
  targetGasLimit : Option (BitVec 64)

structure NextBlockEnvAttributes where
  timestamp : BitVec 64
  suggestedFeeRecipient : FixedBytes 20
  prevRandao : FixedBytes 32
  gasLimit : BitVec 64
  parentBeaconBlockRoot : Option (FixedBytes 32)
  withdrawals : Option (List Withdrawal)
  extraData : Bytes
  slotNumber : Option (BitVec 64)

structure BestTransactionsAttributes where
  basefee : BitVec 64
  blobFee : Option (BitVec 64)

structure EthereumBuilderConfig where
  maxBlobsPerBlock : Option Nat
  skipStateRoot : Bool
  awaitPayloadOnMissing : Bool
  extraData : Bytes
  /-- From the gas limit of the parent and the target of the attributes. -/
  gasLimitWithTarget : BitVec 64 → Option (BitVec 64) → BitVec 64

/-! ## Execution -/

structure GasOutput where
  txGasUsed : BitVec 64
  stateGasUsed : BitVec 64
  deriving DecidableEq

inductive BlockExecutionError (ε : Type)
  | invalidTx (nonceTooLow : Bool)
  | transactionGasLimitMoreThanAvailableBlockGas
      (transactionGasLimit blockAvailableGas : BitVec 64)
  | other (e : ε)
  deriving DecidableEq

abbrev Requests := List Bytes

/-- The assembled block. The access list is in its RLP form. -/
structure BlockBuilderOutcome (α H : Type) where
  requests : Requests
  block : RecoveredBlock α H
  blockAccessList : Option Bytes

/-- The builder of the next block. Its transactions are those executed so far; a state root
that is known already is not computed again. -/
structure BlockBuilder (α H ε : Type) where
  gasLimit : BitVec 64
  basefee : BitVec 64
  blobGasprice : Option (BitVec 128)
  txGasLimitCap : BitVec 64
  applyPreExecutionChanges : Except ε PUnit
  finish : List (RecoveredTx α) → Option (FixedBytes 32) →
    Except (BlockExecutionError ε) (BlockBuilderOutcome α H)

structure ConfigureEvm (α H ε : Type) where
  builderForNextBlock : SealedHeader H → NextBlockEnvAttributes → Except ε (BlockBuilder α H ε)

structure Client (ε : Type) where
  stateByBlockHash : FixedBytes 32 → Except ε PUnit
  chainSpec : ChainSpec

/-! ## Errors -/

/-- Why a transaction is taken out of the stream. -/
inductive Eip4844PoolTransactionError
  | missingEip4844BlobSidecar
  | tooManyEip4844Blobs («have» permitted : Nat)
  | unexpectedEip4844SidecarAfterOsaka
  | unexpectedEip7594SidecarBeforeOsaka
  deriving DecidableEq, Repr

inductive InvalidTransactionError
  | txTypeNotSupported
  deriving DecidableEq, Repr

inductive InvalidPoolTransactionError
  | exceedsGasLimit (transactionGasLimit blockAvailableGas : BitVec 64)
  | oversizedData (size limit : Nat)
  | eip4844 (e : Eip4844PoolTransactionError)
  | consensus (e : InvalidTransactionError)
  deriving DecidableEq, Repr

/-- The errors that are boxed: those of upstream crates, and that of the consensus rules. -/
inductive BoxedError (ε : Type)
  | upstream (e : ε)
  | blockTooLarge (rlpLength maxRlpLength : Nat)
  deriving DecidableEq

inductive PayloadBuilderError (ε : Type)
  | missingPayload
  | internal (e : ε)
  | evmExecutionError (e : BlockExecutionError ε)
  | other (e : BoxedError ε)
  deriving DecidableEq

end RethCosmos.Upstream
