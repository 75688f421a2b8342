import RethCosmos.Payload.Built
import RethCosmos.Pool
import RethCosmos.Rust.Loop

/-!
# The payload builder

The builder takes transactions from the pool, best first, until the stream ends. Each is
checked against what is left of the block, executed, and accounted for; one that fails a
check or its execution is skipped. The block is assembled if its fees are worth it.
-/

namespace RethCosmos.Payload

open Encoding Rust Upstream Primitives CosmosAuth

variable {T H ε : Type}

/-! ## The stream -/

/-- A turn of the loop: the transaction that the pool hands out, and what the builder is told
during the turn, by the job it builds for, the blob store and the executor. -/
structure Turn (T ε : Type) where
  poolTx : CosmosPoolTransaction T BlobTransactionSidecarVariant
  isCancelled : Bool
  getBlob : B256 → Except ε (Option BlobTransactionSidecarVariant)
  execution : Except (BlockExecutionError ε) GasOutput
  /-- What the executor calls the closure with, if it calls it. -/
  blockRegularGasUsed : Option U64

/-- What the builder tells the stream. -/
inductive StreamCall (T : Type)
  | markInvalid (poolTx : CosmosPoolTransaction T BlobTransactionSidecarVariant)
      (error : InvalidPoolTransactionError)
  | skipBlobs

namespace Turn

variable (turn : Turn T ε)

/-- `to_consensus`. -/
def tx : RecoveredTx (CosmosEnvelope T) := turn.poolTx.intoConsensus

/-- The gas limit of the pool entry. -/
def gasLimit [TransactionAccessors T] : U64 :=
  TransactionAccessors.gasLimit turn.poolTx.inner.transaction.tx

def txRlpLen [Encodable2718 T] : Nat := RlpEncodable.length turn.tx.tx

def txBlobCount [TransactionAccessors T] : Option Nat := blobCount turn.tx.tx

/-- `tx_regular_gas_used`, which the closure sets. -/
def txRegularGasUsed : U64 := turn.blockRegularGasUsed.getD 0

end Turn

/-! ## The loop -/

/-- The locals that the loop reads. -/
structure Env where
  isAmsterdam : Bool
  isOsaka : Bool
  blockGasLimit : U64
  txGasLimitCap : U64
  baseFee : U64
  maxBlobCount : Nat
  withdrawalsRlpLength : Nat

/-- The locals that the loop sums up in. Additions wrap, as in a release build. -/
structure Totals where
  cumulativeTxGasUsed : U64
  blockRegularGasUsed : U64
  blockStateGasUsed : U64
  totalFees : U256
  blobSidecars : BlobSidecars
  blockBlobCount : Nat
  blockTransactionsRlpLength : Nat

def Totals.zero : Totals where
  cumulativeTxGasUsed := 0
  blockRegularGasUsed := 0
  blockStateGasUsed := 0
  totalFees := 0
  blobSidecars := .empty
  blockBlobCount := 0
  blockTransactionsRlpLength := 0

/-- A transaction that was executed. -/
structure Executed (T ε : Type) where
  turn : Turn T ε
  blobTxSidecar : Option BlobTransactionSidecarVariant
  minerFee : U128
  gasOutput : GasOutput

/-- The accounting behind a successful execution. -/
def Totals.add [TransactionAccessors T] [Encodable2718 T] (totals : Totals)
    (executed : Executed T ε) : Totals where
  cumulativeTxGasUsed := totals.cumulativeTxGasUsed + executed.gasOutput.txGasUsed
  blockRegularGasUsed := totals.blockRegularGasUsed + executed.turn.txRegularGasUsed
  blockStateGasUsed := totals.blockStateGasUsed + executed.gasOutput.stateGasUsed
  totalFees := totals.totalFees +
    executed.minerFee.setWidth 256 * executed.gasOutput.txGasUsed.setWidth 256
  blobSidecars :=
    match executed.blobTxSidecar with
    | some sidecar => totals.blobSidecars.pushSidecarVariant sidecar
    | none => totals.blobSidecars
  blockBlobCount :=
    match executed.turn.txBlobCount with
    | some blobCount => totals.blockBlobCount + blobCount
    | none => totals.blockBlobCount
  blockTransactionsRlpLength := totals.blockTransactionsRlpLength + executed.turn.txRlpLen

/-- The state of a build: its totals, the transactions in the block so far, and the calls to
the stream. -/
structure State (T ε : Type) where
  totals : Totals
  executed : List (Executed T ε)
  calls : List (StreamCall T)

namespace State

def start : State T ε := { totals := .zero, executed := [], calls := [] }

def markInvalid (state : State T ε) (turn : Turn T ε) (error : InvalidPoolTransactionError) :
    State T ε :=
  { state with calls := state.calls ++ [.markInvalid turn.poolTx error] }

end State

/-- How the loop leaves the function. -/
inductive Stop (ε : Type)
  | cancelled
  | failed (e : PayloadBuilderError ε)

/-- What the checks in front of the execution come to. -/
inductive Verdict
  | skip (error : InvalidPoolTransactionError)
  | execute (blobTxSidecar : Option BlobTransactionSidecarVariant)

section

variable [TransactionAccessors T]

/-- The gas limit that is too high, and the gas that is left for it. -/
def exceedsGasLimit (env : Env) (totals : Totals) (turn : Turn T ε) : Option (U64 × U64) :=
  if env.isAmsterdam then
    let regularAvailableGas := saturatingSub env.blockGasLimit totals.blockRegularGasUsed
    let stateAvailableGas := saturatingSub env.blockGasLimit totals.blockStateGasUsed
    let regularTxGasLimit := umin turn.gasLimit env.txGasLimitCap
    if regularTxGasLimit > regularAvailableGas then
      some (regularTxGasLimit, regularAvailableGas)
    else if turn.gasLimit > stateAvailableGas then some (turn.gasLimit, stateAvailableGas)
    else none
  else
    let blockAvailableGas := saturatingSub env.blockGasLimit totals.cumulativeTxGasUsed
    if turn.gasLimit > blockAvailableGas then some (turn.gasLimit, blockAvailableGas) else none

/-- The variant has to be that of the fork. -/
def checkVariant (isOsaka : Bool) (sidecar : BlobTransactionSidecarVariant) :
    Except Eip4844PoolTransactionError BlobTransactionSidecarVariant :=
  if isOsaka then
    if sidecar.isEip7594 then .ok sidecar else .error .unexpectedEip4844SidecarAfterOsaka
  else
    if sidecar.isEip4844 then .ok sidecar else .error .unexpectedEip7594SidecarBeforeOsaka

/-- The sidecar of a blob transaction, from the blob store. -/
def blobSidecarResult [TxHashRef T] (env : Env) (turn : Turn T ε) :
    Except (Stop ε) (Except Eip4844PoolTransactionError BlobTransactionSidecarVariant) := do
  let blob ← (turn.getBlob (txHash turn.tx.tx)).mapError fun e =>
    Stop.failed (.other (.upstream e))
  match blob with
  | none => return .error .missingEip4844BlobSidecar
  | some sidecar => return checkVariant env.isOsaka sidecar

variable [TxHashRef T] [Encodable2718 T] [RlpBlockSize]

/-- The room that is kept for all of the block but its transactions and withdrawals. -/
def blockOverhead : Nat := 1024

def estimatedBlockSizeWithTx (env : Env) (totals : Totals) (turn : Turn T ε) : Nat :=
  totals.blockTransactionsRlpLength + turn.txRlpLen + env.withdrawalsRlpLength + blockOverhead

/-- The checks of a blob transaction; any other has none. -/
def checkBlobs (env : Env) (totals : Totals) (turn : Turn T ε) : Except (Stop ε) Verdict :=
  match turn.txBlobCount with
  | none => .ok (.execute none)
  | some txBlobCount =>
      if totals.blockBlobCount + txBlobCount > env.maxBlobCount then
        .ok (.skip (.eip4844 (.tooManyEip4844Blobs (totals.blockBlobCount + txBlobCount)
          env.maxBlobCount)))
      else do
        match ← blobSidecarResult env turn with
        | .ok sidecar => return .execute (some sidecar)
        | .error error => return .skip (.eip4844 error)

/-- The checks in front of the execution: gas, cancellation, size and blobs. -/
def checks (env : Env) (totals : Totals) (turn : Turn T ε) : Except (Stop ε) Verdict :=
  match exceedsGasLimit env totals turn with
  | some (transactionGasLimit, blockAvailableGas) =>
      .ok (.skip (.exceedsGasLimit transactionGasLimit blockAvailableGas))
  | none =>
      if turn.isCancelled then .error .cancelled
      else if env.isOsaka ∧ estimatedBlockSizeWithTx env totals turn > RlpBlockSize.max then
        .ok (.skip (.oversizedData (estimatedBlockSizeWithTx env totals turn) RlpBlockSize.max))
      else checkBlobs env totals turn

/-- The stream is told to skip blobs when the block is full of them. -/
def blobCalls (env : Env) (totals : Totals) (turn : Turn T ε) : List (StreamCall T) :=
  match turn.txBlobCount with
  | some blobCount =>
      if totals.blockBlobCount + blobCount = env.maxBlobCount then [.skipBlobs] else []
  | none => []

/-- The execution, and what follows from its result. -/
def execute (env : Env) (state : State T ε) (turn : Turn T ε)
    (blobTxSidecar : Option BlobTransactionSidecarVariant) : Outcome (Stop ε) (State T ε) :=
  match turn.execution with
  | .error (.invalidTx nonceTooLow) =>
      if nonceTooLow then .ok state
      else .ok (state.markInvalid turn (.consensus .txTypeNotSupported))
  | .error (.transactionGasLimitMoreThanAvailableBlockGas transactionGasLimit blockAvailableGas) =>
      .ok (state.markInvalid turn (.exceedsGasLimit transactionGasLimit blockAvailableGas))
  | .error (.other e) => .err (.failed (.evmExecutionError (.other e)))
  | .ok gasOutput => do
      let minerFee ← Outcome.expectSome (effectiveTipPerGas turn.tx.tx env.baseFee)
        "fee is always valid; execution succeeded"
      let executed : Executed T ε := { turn, blobTxSidecar, minerFee, gasOutput }
      return {
        totals := state.totals.add executed
        executed := state.executed ++ [executed]
        calls := state.calls ++ blobCalls env state.totals turn }

/-- The body of the loop. -/
def body (env : Env) (state : State T ε) (turn : Turn T ε) : Outcome (Stop ε) (State T ε) := do
  match ← Outcome.ofExcept (checks env state.totals turn) with
  | .skip error => return state.markInvalid turn error
  | .execute blobTxSidecar => execute env state turn blobTxSidecar

/-- The loop over the stream. -/
def executeBest (env : Env) (bestTxs : List (Turn T ε)) : Outcome (Stop ε) (State T ε) :=
  Outcome.loop (body env) State.start bestTxs

end

/-! ## The build -/

structure PayloadConfig (H : Type) where
  parentHeader : SealedHeader H
  attributes : PayloadAttributes

/-- The state root job ends with the root, or fails. -/
structure BuildArguments (T H ε : Type) where
  stateRootHandle : Option (Except ε B256)
  config : PayloadConfig H
  bestPayload : Option (CosmosBuiltPayload T H)

inductive BuildOutcome (T H : Type)
  | better (payload : CosmosBuiltPayload T H)
  | aborted (fees : U256)
  | cancelled
  | freeze (payload : CosmosBuiltPayload T H)

def BuildOutcome.intoPayload : BuildOutcome T H → Option (CosmosBuiltPayload T H)
  | better payload => some payload
  | aborted _ => none
  | cancelled => none
  | freeze payload => some payload

def isBetterPayload (bestPayload : Option (CosmosBuiltPayload T H)) (newFees : U256) : Bool :=
  match bestPayload with
  | some bestPayload => bestPayload.fees < newFees
  | none => true

def protocolMaxBlobCount (blobParams : Option BlobParams) : Nat :=
  (blobParams.map BlobParams.maxBlobCount).getD 0

def maxBlobCount (maxBlobsPerBlock : Option Nat) (protocolMaxBlobCount : Nat) : Nat :=
  match maxBlobsPerBlock with
  | some userLimit => max (min userLimit protocolMaxBlobCount) 1
  | none => protocolMaxBlobCount

section

variable [TransactionAccessors T] [TxHashRef T] [Encodable2718 T] [RlpEncodable H] [BlockHeader H]
  [RlpBlockSize]

def nextBlockEnvAttributes (builderConfig : EthereumBuilderConfig) (config : PayloadConfig H) :
    NextBlockEnvAttributes where
  timestamp := config.attributes.timestamp
  suggestedFeeRecipient := config.attributes.suggestedFeeRecipient
  prevRandao := config.attributes.prevRandao
  gasLimit := builderConfig.gasLimitWithTarget (BlockHeader.gasLimit config.parentHeader.header)
    config.attributes.targetGasLimit
  parentBeaconBlockRoot := config.attributes.parentBeaconBlockRoot
  withdrawals := config.attributes.withdrawals
  extraData := builderConfig.extraData
  slotNumber := config.attributes.slotNumber

/-- The locals of a build. -/
def buildEnv (spec : ChainSpec) (builder : BlockBuilder (CosmosEnvelope T) H ε)
    (builderConfig : EthereumBuilderConfig) (attributes : PayloadAttributes) : Env where
  isAmsterdam := spec.isAmsterdamActiveAtTimestamp attributes.timestamp
  isOsaka := spec.isOsakaActiveAtTimestamp attributes.timestamp
  blockGasLimit := builder.gasLimit
  txGasLimitCap := builder.txGasLimitCap
  baseFee := builder.basefee
  maxBlobCount := maxBlobCount builderConfig.maxBlobsPerBlock
    (protocolMaxBlobCount (spec.blobParamsAtTimestamp attributes.timestamp))
  withdrawalsRlpLength :=
    match attributes.withdrawals with
    | some withdrawals => listLength withdrawals
    | none => 0

/-- The state root that the assembly does not have to compute. -/
def knownStateRoot (builderConfig : EthereumBuilderConfig) (args : BuildArguments T H ε) :
    Option B256 :=
  if builderConfig.skipStateRoot then
    some (BlockHeader.stateRoot args.config.parentHeader.header)
  else
    match args.stateRootHandle with
    | some (.ok stateRoot) => some stateRoot
    | some (.error _) => none
    | none => none

/-- The payload of the assembled block, with requests from Prague on. -/
def builtPayload (spec : ChainSpec) (attributes : PayloadAttributes) (totals : Totals)
    (outcome : BlockBuilderOutcome (CosmosEnvelope T) H) : CosmosBuiltPayload T H :=
  let requests :=
    if spec.isPragueActiveAtTimestamp attributes.timestamp then some outcome.requests else none
  (CosmosBuiltPayload.new outcome.block totals.totalFees requests
    outcome.blockAccessList).withSidecars totals.blobSidecars

/-- What follows the loop: the block is assembled if it is better than the best payload. -/
def assemble (spec : ChainSpec) (env : Env) (builder : BlockBuilder (CosmosEnvelope T) H ε)
    (builderConfig : EthereumBuilderConfig) (args : BuildArguments T H ε) (state : State T ε) :
    Except (PayloadBuilderError ε) (BuildOutcome T H) :=
  if ¬ isBetterPayload args.bestPayload state.totals.totalFees then
    .ok (.aborted state.totals.totalFees)
  else do
    let outcome ← (builder.finish (state.executed.map fun entry => entry.turn.tx)
      (knownStateRoot builderConfig args)).mapError .evmExecutionError
    if env.isOsaka ∧ outcome.block.rlpLength > RlpBlockSize.max then
      .error (.other (.blockTooLarge outcome.block.rlpLength RlpBlockSize.max))
    else return .better (builtPayload spec args.config.attributes state.totals outcome)

def bestTransactionsAttributes (builder : BlockBuilder (CosmosEnvelope T) H ε) :
    BestTransactionsAttributes where
  basefee := builder.basefee
  blobFee := builder.blobGasprice.map (BitVec.setWidth 64)

/-- The loop and what follows it. -/
def buildPayload (spec : ChainSpec) (builder : BlockBuilder (CosmosEnvelope T) H ε)
    (builderConfig : EthereumBuilderConfig) (args : BuildArguments T H ε)
    (bestTxs : List (Turn T ε)) : Outcome (PayloadBuilderError ε) (BuildOutcome T H) :=
  let env := buildEnv spec builder builderConfig args.config.attributes
  match executeBest env bestTxs with
  | .ok state => Outcome.ofExcept (assemble spec env builder builderConfig args state)
  | .err .cancelled => .ok .cancelled
  | .err (.failed e) => .err e
  | .panic message => .panic message

/-- `default_ethereum_payload`, over the stream that the pool makes of the attributes. -/
def defaultEthereumPayload (evmConfig : ConfigureEvm (CosmosEnvelope T) H ε) (client : Client ε)
    (builderConfig : EthereumBuilderConfig) (args : BuildArguments T H ε)
    (bestTxs : BestTransactionsAttributes → List (Turn T ε)) :
    Outcome (PayloadBuilderError ε) (BuildOutcome T H) := do
  let parentHeader := args.config.parentHeader
  let _ ← Outcome.ofExcept ((client.stateByBlockHash parentHeader.hash).mapError .internal)
  let builder ← Outcome.ofExcept
    ((evmConfig.builderForNextBlock parentHeader
      (nextBlockEnvAttributes builderConfig args.config)).mapError
      fun e => .other (.upstream e))
  let bestTxs := bestTxs (bestTransactionsAttributes builder)
  let _ ← Outcome.ofExcept (builder.applyPreExecutionChanges.mapError .internal)
  buildPayload client.chainSpec builder builderConfig args bestTxs

end

/-! ## The builder of the node -/

inductive MissingPayloadBehaviour
  | awaitInProgress
  | raceEmptyPayload
  deriving DecidableEq, Repr

structure CosmosPayloadBuilder (T H ε : Type) where
  client : Client ε
  evmConfig : ConfigureEvm (CosmosEnvelope T) H ε
  builderConfig : EthereumBuilderConfig
  /-- The turns that a stream of the pool goes through. -/
  bestTransactionsWithAttributes : BestTransactionsAttributes → List (Turn T ε)

namespace CosmosPayloadBuilder

variable [TransactionAccessors T] [TxHashRef T] [Encodable2718 T] [RlpEncodable H] [BlockHeader H]
  [RlpBlockSize] (b : CosmosPayloadBuilder T H ε)

def tryBuild (args : BuildArguments T H ε) :
    Outcome (PayloadBuilderError ε) (BuildOutcome T H) :=
  defaultEthereumPayload b.evmConfig b.client b.builderConfig args
    b.bestTransactionsWithAttributes

def onMissingPayload (b : CosmosPayloadBuilder T H ε) : MissingPayloadBehaviour :=
  if b.builderConfig.awaitPayloadOnMissing then .awaitInProgress else .raceEmptyPayload

def buildEmptyPayload (config : PayloadConfig H) :
    Outcome (PayloadBuilderError ε) (CosmosBuiltPayload T H) := do
  let args := { stateRootHandle := none, config, bestPayload := none }
  let outcome ← defaultEthereumPayload b.evmConfig b.client b.builderConfig args fun _ => []
  Outcome.okOr outcome.intoPayload .missingPayload

end CosmosPayloadBuilder

end RethCosmos.Payload
