import RethCosmos.Upstream.Accessors
import RethCosmos.Upstream.Eip2718

/-!
# Pool transactions

The entry that the pool keeps for a transaction, and the two forms of an Ethereum
transaction: its consensus form and its pooled form. They differ for blob transactions,
whose pooled form carries the sidecar.
-/

namespace RethCosmos.Upstream

open Encoding Rust

variable {α β T P S : Type}

/-- A transaction with the signer it was recovered for. -/
@[ext] structure RecoveredTx (α : Type) where
  tx : α
  signer : FixedBytes 20
  deriving DecidableEq

def RecoveredTx.map (f : α → β) (recovered : RecoveredTx α) : RecoveredTx β :=
  ⟨f recovered.tx, recovered.signer⟩

/-- A conversion that failed hands its argument back. -/
structure ValueError (α : Type) where
  value : α
  message : String

def ValueError.map (f : α → β) (e : ValueError α) : ValueError β := ⟨f e.value, e.message⟩

def isEip4844 [Typed2718 α] (tx : α) : Bool := ty tx = TxType.eip4844.toU8

inductive EthBlobTransactionSidecar (S : Type)
  | none
  | missing
  | present (sidecar : S)
  deriving DecidableEq

structure EthPooledTransaction (α S : Type) where
  transaction : RecoveredTx α
  cost : BitVec 256
  encodedLength : Nat
  blobSidecar : EthBlobTransactionSidecar S

/-- The cost is what the transaction can spend at most. Blobs are not part of the
transaction, so their sidecar is missing. -/
def EthPooledTransaction.new [TransactionAccessors α] (transaction : RecoveredTx α)
    (encodedLength : Nat) : EthPooledTransaction α S :=
  let tx := transaction.tx
  let gasCost := saturatingMul ((maxFeePerGas tx).setWidth 256) ((gasLimit tx).setWidth 256)
  let cost := saturatingAdd gasCost (value tx)
  match blobGasUsed tx, maxFeePerBlobGas tx with
  | some blobGasUsed, some maxFeePerBlobGas =>
      let blobCost := saturatingMul maxFeePerBlobGas (BitVec.ofNat 128 blobGasUsed)
      { transaction, encodedLength
        cost := saturatingAdd cost (blobCost.setWidth 256)
        blobSidecar := .missing }
  | _, _ => { transaction, encodedLength, cost, blobSidecar := .none }

namespace EthPooledTransaction

variable [TransactionAccessors α] (transaction : RecoveredTx α) (encodedLength : Nat)

@[simp] theorem new_transaction :
    (new transaction encodedLength : EthPooledTransaction α S).transaction = transaction := by
  simp only [new]
  split
  next => rfl
  next => rfl

@[simp] theorem new_encodedLength :
    (new transaction encodedLength : EthPooledTransaction α S).encodedLength =
      encodedLength := by
  simp only [new]
  split
  next => rfl
  next => rfl

theorem new_of_no_blobs {transaction : RecoveredTx α}
    (hnone : blobVersionedHashes transaction.tx = none) (encodedLength : Nat) :
    (new transaction encodedLength : EthPooledTransaction α S) =
      { transaction, encodedLength
        cost := saturatingAdd
          (saturatingMul ((maxFeePerGas transaction.tx).setWidth 256)
            ((gasLimit transaction.tx).setWidth 256)) (value transaction.tx)
        blobSidecar := .none } := by
  have hgas : blobGasUsed transaction.tx = none := by
    rw [blobGasUsed, blobCount, hnone]
    rfl
  simp only [new, hgas]

end EthPooledTransaction

/-! ## The two forms -/

/-- The consensus form `T`, the pooled form `P`, the sidecars `S` of blob transactions, and
the conversions between them. -/
class EthereumPool (T P S : Type) where
  /-- The sidecar that a pooled blob transaction carries. -/
  sidecar : P → Option S
  intoConsensus : P → T
  fromPooled : RecoveredTx P → EthPooledTransaction T S
  tryIntoPooled : T → Except (ValueError T) P
  tryIntoPooledEip4844 : T → S → Except (ValueError T) P

/-- What is documented of the conversions. -/
structure EthereumPool.Documented (T P S : Type) [EthereumPool T P S] [Typed2718 T]
    [Typed2718 P] [TxHashRef T] [TxHashRef P] : Prop where
  sidecar_isSome_iff : ∀ p : P, (sidecar T (S := S) p).isSome ↔ isEip4844 p = true
  ty_intoConsensus : ∀ p : P, ty (intoConsensus S p : T) = ty p
  txHash_intoConsensus : ∀ p : P, txHash (intoConsensus S p : T) = txHash p
  fromPooled_transaction : ∀ p : RecoveredTx P,
    (fromPooled p : EthPooledTransaction T S).transaction = p.map (intoConsensus S)
  fromPooled_blobSidecar : ∀ p : RecoveredTx P,
    (fromPooled p : EthPooledTransaction T S).blobSidecar =
      match sidecar T (S := S) p.tx with
      | some sidecar => .present sidecar
      | none => .none
  /-- A blob transaction takes its sidecar back. -/
  attach : ∀ (p : P) (blobs : S), sidecar T p = some blobs →
    tryIntoPooledEip4844 (intoConsensus S p : T) blobs = .ok p
  attach_only_blobs : ∀ (t : T) (blobs : S), isEip4844 t = false →
    ∃ e, tryIntoPooledEip4844 (P := P) t blobs = .error e
  /-- Any other transaction is its own pooled form. -/
  pooled_of_consensus : ∀ p : P, isEip4844 p = false → tryIntoPooled S (intoConsensus S p : T) = .ok p
  pooled_unless_blobs : ∀ t : T, isEip4844 t = false → ∃ p : P, tryIntoPooled S t = .ok p
  blobs_handed_back : ∀ t : T, isEip4844 t = true →
    ∃ e : ValueError T, tryIntoPooled (P := P) S t = .error e ∧ e.value = t

end RethCosmos.Upstream
