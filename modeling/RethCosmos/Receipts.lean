import Mathlib.Data.List.Nodup
import RethCosmos.Primitives.TxType
import RethCosmos.Rust.Closure
import RethCosmos.Rust.Loop
import RethCosmos.Upstream.Receipt

/-!
# Receipts

The executor builds a receipt for each transaction, with the gas of the block so far. The
converter numbers the logs of one receipt from a first index, which its callers take from
the receipts in front. Over a block every log gets one number, in order.
-/

namespace RethCosmos

open Encoding Rust Upstream Primitives

abbrev Receipt := EthereumReceipt CosmosTxType Log

abbrev RpcReceiptInner := ReceiptWithBloom (EthereumReceipt CosmosTxType RpcLog)

def buildReceipt (ctx : ReceiptBuilderCtx CosmosTxType) : Receipt where
  txType := ctx.txType
  success := ctx.result.isSuccess
  cumulativeGasUsed := ctx.cumulativeGasUsed
  logs := ctx.result.intoLogs

/-- `map_logs`, with a closure that counts. -/
def mapLogs {σ M : Type} (f : σ → Log → M × σ) (s : σ) (receipt : Receipt) :
    EthereumReceipt CosmosTxType M :=
  { receipt with logs := mapMut f s receipt.logs }

section

variable [LogsBloom]

def rpcLog («meta» : TransactionMeta) (log : Log) (index : Nat) : RpcLog where
  inner := log
  blockHash := some «meta».blockHash
  blockNumber := some «meta».blockNumber
  blockTimestamp := some «meta».timestamp
  transactionHash := some «meta».txHash
  transactionIndex := some «meta».index
  logIndex := some (BitVec.ofNat 64 index)
  removed := false

def receiptConverter (receipt : Receipt) (firstLog : Nat) («meta» : TransactionMeta) :
    RpcReceiptInner where
  logsBloom := receipt.bloom
  receipt := mapLogs (fun nextLog log => (rpcLog «meta» log nextLog, nextLog + 1)) firstLog receipt

/-! ## Blocks -/

/-- A transaction that the executor has committed. -/
structure Committed where
  txType : CosmosTxType
  result : ExecutionResult
  gasUsed : BitVec 64

/-- The gas is added before the receipt is built. -/
def addReceipt (gasUsed : BitVec 64) (tx : Committed) : Receipt × BitVec 64 :=
  let cumulativeGasUsed := gasUsed + tx.gasUsed
  (buildReceipt { txType := tx.txType, result := tx.result, cumulativeGasUsed }, cumulativeGasUsed)

def blockReceipts (committed : List Committed) : List Receipt := mapMut addReceipt 0 committed

def convertNext (nextLogIndex : Nat) (item : Receipt × TransactionMeta) : RpcReceiptInner × Nat :=
  (receiptConverter item.1 nextLogIndex item.2, nextLogIndex + item.1.logs.length)

/-- The receipts of a block in one pass, in which the logs are counted. -/
def convertBlock (items : List (Receipt × TransactionMeta)) : List RpcReceiptInner :=
  mapMut convertNext 0 items

/-- The index that a single receipt is converted from, counted over the receipts in front. -/
def nextLogIndex (items : List (Receipt × TransactionMeta)) (i : Nat) : Nat :=
  ((items.take i).map fun item => item.1.logs.length).sum

/-! ## Executed transactions -/

omit [LogsBloom]

/-- The gas of the transactions, up to the end of the word. -/
def gasOf (committed : List Committed) : BitVec 64 :=
  BitVec.ofNat 64 (committed.map fun tx => tx.gasUsed.toNat).sum

theorem stateAfter_addReceipt (committed : List Committed) :
    stateAfter addReceipt 0 committed = gasOf committed := by
  have hgas := @Outcome.word_foldl _ _ 64 (fun gasUsed tx => (addReceipt gasUsed tx).2)
    (fun gasUsed => gasUsed) (fun tx => tx.gasUsed.toNat) (fun _ tx => by simp [addReceipt]) 0
    committed
  exact hgas.trans (BitVec.zero_add _)

theorem blockReceipts_getElem? (committed : List Committed) (i : Nat) :
    (blockReceipts committed)[i]? = committed[i]?.map fun tx =>
      buildReceipt { txType := tx.txType, result := tx.result
                     cumulativeGasUsed := gasOf (committed.take i) + tx.gasUsed } := by
  rw [blockReceipts, getElem?_mapMut, stateAfter_addReceipt]
  rfl

theorem gasOf_take_succ {committed : List Committed} {i : Nat} {tx : Committed}
    (htx : committed[i]? = some tx) :
    gasOf (committed.take (i + 1)) = gasOf (committed.take i) + tx.gasUsed := by
  have hnext : committed.take (i + 1) = committed.take i ++ [tx] := by
    rw [List.take_add_one, htx]
    rfl
  rw [gasOf, hnext, List.map_append, List.sum_append, List.map_singleton, List.sum_singleton,
    BitVec.ofNat_add, BitVec.ofNat_toNat, BitVec.setWidth_eq]
  rfl

theorem map_logs_blockReceipts (committed : List Committed) :
    (blockReceipts committed).map EthereumReceipt.logs =
      committed.map fun tx => tx.result.intoLogs := by
  apply map_mapMut
  intro gasUsed tx
  rfl

/-! ## Conversion -/

variable [LogsBloom]

/-- The logs of one receipt are numbered from the first index on. -/
theorem receiptConverter_logs (receipt : Receipt) (firstLog : Nat) («meta» : TransactionMeta) :
    (receiptConverter receipt firstLog «meta»).receipt.logs =
      ((receipt.logs.map fun log => (log, «meta»)).zipIdx firstLog).map
        fun entry => rpcLog entry.1.2 entry.1.1 entry.2 := by
  have hcount := @mapMut_counter Log RpcLog (rpcLog «meta») firstLog receipt.logs
  rw [List.zipIdx_map, List.map_map]
  exact hcount

/-- Without the places of its logs the receipt is the one that was converted. -/
theorem inner_receiptConverter (receipt : Receipt) (firstLog : Nat) («meta» : TransactionMeta) :
    let converted := (receiptConverter receipt firstLog «meta»).receipt
    { converted with logs := converted.logs.map RpcLog.inner } = receipt := by
  have hlogs : (receiptConverter receipt firstLog «meta»).receipt.logs.map RpcLog.inner =
      receipt.logs := by
    have hfirst : ∀ entry : (Log × TransactionMeta) × Nat,
        (rpcLog entry.1.2 entry.1.1 entry.2).inner = entry.1.1 := fun _ => rfl
    rw [receiptConverter_logs, List.map_map]
    calc _ = (((receipt.logs.map fun log => (log, «meta»)).zipIdx firstLog).map
          Prod.fst).map Prod.fst := by rw [List.map_map]; rfl
      _ = receipt.logs := by rw [List.zipIdx_map_fst, List.map_map]; exact List.map_id' _
  intro converted
  rw [show converted.logs.map RpcLog.inner = receipt.logs from hlogs]
  rfl

theorem stateAfter_convertNext (items : List (Receipt × TransactionMeta)) (i : Nat) :
    stateAfter convertNext 0 (items.take i) = nextLogIndex items i := by
  have hsum := @Outcome.measure_foldl _ _ (fun next item => (convertNext next item).2)
    (fun next => next) (fun item => item.1.logs.length) (fun _ _ => rfl) 0 (items.take i)
  exact hsum.trans (Nat.zero_add _)

/-- The logs of a block, each with the transaction it is of, are numbered from zero. -/
theorem logs_convertBlock (items : List (Receipt × TransactionMeta)) :
    ((convertBlock items).flatMap fun converted => converted.receipt.logs) =
      ((items.flatMap fun item => item.1.logs.map fun log => (log, item.2)).zipIdx 0).map
        fun entry => rpcLog entry.1.2 entry.1.1 entry.2 := by
  apply flatMap_mapMut_counter
  · intro next item
    exact receiptConverter_logs item.1 next item.2
  · intro next item
    rw [List.length_map]
    rfl

omit [LogsBloom] in
/-- As many numbers as a word has are different. -/
theorem logIndex_nodup {entries : List (Log × TransactionMeta)} (hsmall : entries.length ≤ 2 ^ 64) :
    (((entries.zipIdx 0).map fun entry => rpcLog entry.1.2 entry.1.1 entry.2).map
      RpcLog.logIndex).Nodup := by
  -- the numbers are a range, cut down to words
  have hindices : ((entries.zipIdx 0).map fun entry => rpcLog entry.1.2 entry.1.1 entry.2).map
      RpcLog.logIndex = (List.range' 0 entries.length).map fun index =>
        some (BitVec.ofNat 64 index) := by
    rw [← List.zipIdx_map_snd 0 entries, List.map_map, List.map_map]
    rfl
  rw [hindices]
  apply List.Nodup.map_on _ List.nodup_range'
  intro index hindex other hother heq
  have hlt : index < 2 ^ 64 := by
    have hrange := (List.mem_range'_1.mp hindex).2
    omega
  have hlt' : other < 2 ^ 64 := by
    have hrange := (List.mem_range'_1.mp hother).2
    omega
  have hword := congrArg BitVec.toNat (Option.some.inj heq)
  rwa [BitVec.toNat_ofNat, BitVec.toNat_ofNat, Nat.mod_eq_of_lt hlt, Nat.mod_eq_of_lt hlt'] at hword

end

end RethCosmos
