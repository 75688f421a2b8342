import RethCosmos.Encoding.Bytes

/-!
# Receipts

What the executor leaves of a transaction, the receipt that consensus keeps of it, and the
receipt as RPC reports it, with the place of every log.
-/

namespace RethCosmos.Upstream

open Encoding

variable {τ L ρ : Type}

structure Log where
  address : FixedBytes 20
  topics : List (FixedBytes 32)
  data : Bytes
  deriving DecidableEq

structure EthereumReceipt (τ L : Type) where
  txType : τ
  success : Bool
  cumulativeGasUsed : BitVec 64
  logs : List L

structure ReceiptWithBloom (ρ : Type) where
  receipt : ρ
  logsBloom : FixedBytes 256

/-- The bloom filter of logs. -/
class LogsBloom where
  logsBloom : List Log → FixedBytes 256

export LogsBloom (logsBloom)

def EthereumReceipt.bloom [LogsBloom] (receipt : EthereumReceipt τ Log) : FixedBytes 256 :=
  logsBloom receipt.logs

/-- The end of an execution, as far as it goes into a receipt. -/
structure ExecutionResult where
  isSuccess : Bool
  intoLogs : List Log
  deriving DecidableEq

structure ReceiptBuilderCtx (τ : Type) where
  txType : τ
  result : ExecutionResult
  cumulativeGasUsed : BitVec 64

/-- The place of a transaction in the chain. -/
structure TransactionMeta where
  txHash : FixedBytes 32
  index : BitVec 64
  blockHash : FixedBytes 32
  blockNumber : BitVec 64
  timestamp : BitVec 64
  deriving DecidableEq

/-- A log with its place. -/
structure RpcLog where
  inner : Log
  blockHash : Option (FixedBytes 32)
  blockNumber : Option (BitVec 64)
  blockTimestamp : Option (BitVec 64)
  transactionHash : Option (FixedBytes 32)
  transactionIndex : Option (BitVec 64)
  logIndex : Option (BitVec 64)
  removed : Bool
  deriving DecidableEq

end RethCosmos.Upstream
