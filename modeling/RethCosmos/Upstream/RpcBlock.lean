import RethCosmos.Upstream.Block
import RethCosmos.Upstream.Pool

/-!
# Blocks in RPC

A block as RPC reports it, with its transactions or only their hashes, and the block of the
consensus layer that is made of it.
-/

namespace RethCosmos.Upstream

open Encoding

variable {α β H : Type}

/-- A transaction with its sender. -/
structure RpcTransaction (α : Type) where
  inner : RecoveredTx α

inductive BlockTransactions (α : Type)
  | full (txs : List α)
  | hashes (hashes : List (FixedBytes 32))
  | uncle

def BlockTransactions.intoTransactionsVec : BlockTransactions α → List α
  | full txs => txs
  | hashes _ => []
  | uncle => []

structure RpcBlock (α H : Type) where
  header : H
  uncles : List (FixedBytes 32)
  transactions : BlockTransactions α
  withdrawals : Option (List Withdrawal)

/-- The ommers are only named by their hashes, and are left out. -/
def RpcBlock.intoConsensus (block : RpcBlock α H) : H × BlockBody α H :=
  (block.header,
    { transactions := block.transactions.intoTransactionsVec
      ommers := []
      withdrawals := block.withdrawals })

/-- `map_transactions` of a block. -/
def mapTransactions (f : α → β) (block : H × BlockBody α H) : H × BlockBody β H :=
  (block.1, { block.2 with transactions := block.2.transactions.map f })

end RethCosmos.Upstream
