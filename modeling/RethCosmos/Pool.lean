import RethCosmos.Primitives.Accessors
import RethCosmos.Primitives.SampleBlob
import RethCosmos.Upstream.Pool

/-!
# Pooled and consensus forms

The pool entry of the envelope is rebuilt around what the upstream pool makes of an
Ethereum transaction. The sidecar of a blob transaction moves from the pooled form to the
entry, can be taken from it once, and is attached again when a block is reverted.
-/

namespace RethCosmos

open Encoding Rust Upstream CosmosAuth Primitives

/-- The pool entry of a transaction. -/
structure CosmosPoolTransaction (T S : Type) where
  inner : EthPooledTransaction (CosmosEnvelope T) S

variable {T P S : Type}

/-! ## `From` and `TryFrom` of the two forms -/

section

variable [EthereumPool T P S]

/-- `From<PooledTransaction> for Transaction`. -/
def transactionFrom (T S : Type) {P : Type} [EthereumPool T P S] :
    CosmosEnvelope P → CosmosEnvelope T
  | .ethereum t => .ethereum (EthereumPool.intoConsensus S t)
  | .cosmos t => .cosmos t

/-- `TryFrom<Transaction> for PooledTransaction`. -/
def pooledTryFrom (P S : Type) {T : Type} [EthereumPool T P S] :
    CosmosEnvelope T → Except (ValueError (CosmosEnvelope T)) (CosmosEnvelope P)
  | .ethereum t =>
      ((EthereumPool.tryIntoPooled S t).map CosmosEnvelope.ethereum).mapError
        fun e => e.map CosmosEnvelope.ethereum
  | .cosmos t => .ok (.cosmos t)

end

namespace CosmosPoolTransaction

/-! ## The pool entry -/

section

variable (c : CosmosPoolTransaction T S)

def intoConsensus : RecoveredTx (CosmosEnvelope T) := c.inner.transaction

def hash [TxHashRef T] : B256 := txHash c.inner.transaction.tx

def sender : Address := c.inner.transaction.signer

def cost : U256 := c.inner.cost

def encodedLength : Nat := c.inner.encodedLength

/-- The sidecar, and the entry without it. -/
def takeBlob [Typed2718 T] :
    EthBlobTransactionSidecar S × CosmosPoolTransaction T S :=
  if isEip4844 c.inner.transaction.tx then
    (c.inner.blobSidecar, ⟨{ c.inner with blobSidecar := .missing }⟩)
  else (.none, c)

/-- The results of calls in a row. -/
def takeBlobs [Typed2718 T] :
    Nat → CosmosPoolTransaction T S → List (EthBlobTransactionSidecar S)
  | 0, _ => []
  | n + 1, c => c.takeBlob.1 :: takeBlobs n c.takeBlob.2

end

section

variable [TransactionAccessors T] [Encodable2718 P] [EthereumPool T P S]

/-- The length is that of the pooled form, with its sidecar. -/
def fromPooled (tx : RecoveredTx (CosmosEnvelope P)) : CosmosPoolTransaction T S :=
  let len := encode2718Len tx.tx
  match tx.tx with
  | .ethereum t =>
      let eth : EthPooledTransaction T S := EthereumPool.fromPooled ⟨t, tx.signer⟩
      let result : EthPooledTransaction (CosmosEnvelope T) S :=
        EthPooledTransaction.new (eth.transaction.map .ethereum) len
      ⟨{ result with blobSidecar := eth.blobSidecar }⟩
  | .cosmos t => ⟨EthPooledTransaction.new ⟨.cosmos t, tx.signer⟩ len⟩

def tryIntoPooledEip4844 (c : CosmosPoolTransaction T S) (sidecar : S) :
    Option (RecoveredTx (CosmosEnvelope P)) :=
  match c.inner.transaction.tx with
  | .ethereum tx =>
      match EthereumPool.tryIntoPooledEip4844 tx sidecar with
      | .ok tx => some ⟨.ethereum tx, c.inner.transaction.signer⟩
      | .error _ => none
  | .cosmos _ => none

def tryFromEip4844 (P : Type) [Encodable2718 P] [EthereumPool T P S]
    (tx : RecoveredTx (CosmosEnvelope T)) (sidecar : S) : Option (CosmosPoolTransaction T S) :=
  match tx.tx with
  | .ethereum t =>
      match EthereumPool.tryIntoPooledEip4844 (P := P) t sidecar with
      | .ok t => some (fromPooled ⟨.ethereum t, tx.signer⟩)
      | .error _ => none
  | .cosmos _ => none

end

/-! ## The two forms -/

/-- The sidecar that a pooled transaction carries. -/
def sidecarOf (T : Type) [EthereumPool T P S] : CosmosEnvelope P → Option S
  | .ethereum t => EthereumPool.sidecar T t
  | .cosmos _ => none

section Forms

variable [Typed2718 T] [Typed2718 P] [TxHashRef T] [TxHashRef P] [EthereumPool T P S]
  (hdoc : EthereumPool.Documented T P S)
include hdoc

/-- Blob transactions are those with a sidecar, in either form. -/
theorem isEip4844_iff (p : CosmosEnvelope P) :
    isEip4844 (transactionFrom T S p) = true ↔ (sidecarOf T (S := S) p).isSome := by
  cases p with
  | ethereum t =>
      have hty : isEip4844 (transactionFrom T S (.ethereum t)) = isEip4844 t :=
        congrArg (fun ty => decide (ty = TxType.eip4844.toU8)) (hdoc.ty_intoConsensus t)
      rw [hty]
      exact (hdoc.sidecar_isSome_iff t).symm
  | cosmos t =>
      have hty : isEip4844 (transactionFrom T S (.cosmos (T := P) t)) = false := rfl
      rw [hty]
      simp [sidecarOf]

theorem transactionFrom_txHash (p : CosmosEnvelope P) :
    txHash (transactionFrom T S p) = txHash p := by
  cases p with
  | ethereum t => exact hdoc.txHash_intoConsensus t
  | cosmos t => rfl

/-- Without a sidecar the two forms are the same transaction. -/
theorem pooledTryFrom_transactionFrom {p : CosmosEnvelope P}
    (hnone : sidecarOf T (S := S) p = none) :
    pooledTryFrom P S (transactionFrom T S p) = .ok p := by
  cases p with
  | cosmos t => rfl
  | ethereum t =>
      have hother : isEip4844 t = false := by
        have hiff := hdoc.sidecar_isSome_iff t
        simp only [sidecarOf] at hnone
        rw [hnone] at hiff
        simpa using hiff
      simp [transactionFrom, pooledTryFrom, hdoc.pooled_of_consensus t hother, Except.map,
        Except.mapError]

theorem pooledTryFrom_cases (t : CosmosEnvelope T) :
    (isEip4844 t = false ∧ ∃ p : CosmosEnvelope P, pooledTryFrom P S t = .ok p) ∨
      (isEip4844 t = true ∧ ∃ e, pooledTryFrom P S t = .error e ∧ e.value = t) := by
  cases t with
  | cosmos t => exact Or.inl ⟨rfl, _, rfl⟩
  | ethereum t =>
      cases hblobs : isEip4844 t with
      | false =>
          obtain ⟨p, hpooled⟩ := hdoc.pooled_unless_blobs t hblobs
          refine Or.inl ⟨hblobs, .ethereum p, ?_⟩
          rw [pooledTryFrom, hpooled]
          rfl
      | true =>
          obtain ⟨e, hfails, hvalue⟩ := hdoc.blobs_handed_back t hblobs
          refine Or.inr ⟨hblobs, e.map .ethereum, ?_, congrArg _ hvalue⟩
          rw [pooledTryFrom, hfails]
          rfl

end Forms

/-! ## What an entry holds -/

section Entry

variable [TransactionAccessors T] [Encodable2718 P] [EthereumPool T P S]

theorem fromPooled_encodedLength (tx : RecoveredTx (CosmosEnvelope P)) :
    (fromPooled tx : CosmosPoolTransaction T S).encodedLength = encode2718Len tx.tx := by
  obtain ⟨tx, signer⟩ := tx
  cases tx with
  | ethereum t => exact EthPooledTransaction.new_encodedLength _ _
  | cosmos t => exact EthPooledTransaction.new_encodedLength _ _

variable [Typed2718 T] [TxHashRef T] [TxHashRef P] (hdoc : EthereumPool.Documented T P S)
include hdoc

theorem fromPooled_intoConsensus (tx : RecoveredTx (CosmosEnvelope P)) :
    (fromPooled tx : CosmosPoolTransaction T S).intoConsensus = tx.map (transactionFrom T S) := by
  obtain ⟨tx, signer⟩ := tx
  cases tx with
  | ethereum t =>
      have heth := hdoc.fromPooled_transaction ⟨t, signer⟩
      apply (EthPooledTransaction.new_transaction _ _).trans
      rw [heth]
      rfl
  | cosmos t => exact EthPooledTransaction.new_transaction _ _

theorem fromPooled_blobSidecar (tx : RecoveredTx (CosmosEnvelope P)) :
    (fromPooled tx : CosmosPoolTransaction T S).inner.blobSidecar =
      match sidecarOf T (S := S) tx.tx with
      | some sidecar => .present sidecar
      | none => .none := by
  obtain ⟨tx, signer⟩ := tx
  cases tx with
  | ethereum t => exact hdoc.fromPooled_blobSidecar ⟨t, signer⟩
  | cosmos t =>
      have hnew := @EthPooledTransaction.new_of_no_blobs _ S _
        ⟨CosmosEnvelope.cosmos (T := T) t, signer⟩ rfl
        (encode2718Len (CosmosEnvelope.cosmos (T := P) t))
      exact congrArg EthPooledTransaction.blobSidecar hnew

end Entry

/-! ## Taking the sidecar -/

section Take

variable [Typed2718 T]

theorem takeBlobs_none {c : CosmosPoolTransaction T S}
    (hnone : isEip4844 c.inner.transaction.tx = false) (n : Nat) :
    takeBlobs n c = List.replicate n .none := by
  have htake : c.takeBlob = (.none, c) := by
    rw [takeBlob, hnone]
    rfl
  induction n with
  | zero => rfl
  | succ n ih => rw [takeBlobs, htake, ih, List.replicate_succ]

theorem takeBlobs_missing {c : CosmosPoolTransaction T S}
    (hblobs : isEip4844 c.inner.transaction.tx = true)
    (hmissing : c.inner.blobSidecar = .missing) (n : Nat) :
    takeBlobs n c = List.replicate n .missing := by
  have htake : c.takeBlob = (.missing, c) := by
    rw [takeBlob, if_pos hblobs, ← hmissing]
  induction n with
  | zero => rfl
  | succ n ih => rw [takeBlobs, htake, ih, List.replicate_succ]

/-- Only the first call gets what the entry holds. -/
theorem takeBlobs_succ {c : CosmosPoolTransaction T S}
    (hblobs : isEip4844 c.inner.transaction.tx = true) (n : Nat) :
    takeBlobs (n + 1) c = c.inner.blobSidecar :: List.replicate n .missing := by
  let left : CosmosPoolTransaction T S := ⟨{ c.inner with blobSidecar := .missing }⟩
  have htake : c.takeBlob = (c.inner.blobSidecar, left) := by
    rw [takeBlob, if_pos hblobs]
  have hblobs' : isEip4844 left.inner.transaction.tx = true := hblobs
  have hleft : takeBlobs n left = List.replicate n .missing := takeBlobs_missing hblobs' rfl n
  rw [takeBlobs, htake, hleft]

end Take

/-! ## The conversions of blob transactions -/

section Conversions

variable [TransactionAccessors T] [Typed2718 T] [TxHashRef T] [TxHashRef P] [Encodable2718 P]
  [EthereumPool T P S] (hdoc : EthereumPool.Documented T P S)
include hdoc

/-- The entry of a blob transaction turns into the pooled form with its sidecar, and the
consensus form into the entry. -/
theorem conversions_of_blobs {p : CosmosEnvelope P} {sidecar : S}
    (hsidecar : sidecarOf T p = some sidecar) (signer : Address) :
    (fromPooled ⟨p, signer⟩ : CosmosPoolTransaction T S).tryIntoPooledEip4844 sidecar =
        some ⟨p, signer⟩ ∧
      tryFromEip4844 P ⟨transactionFrom T S p, signer⟩ sidecar =
        some (fromPooled ⟨p, signer⟩) := by
  have hconsensus := fromPooled_intoConsensus hdoc ⟨p, signer⟩
  cases p with
  | cosmos t => simp [sidecarOf] at hsidecar
  | ethereum t =>
      have hattach := hdoc.attach t sidecar hsidecar
      simp only [intoConsensus] at hconsensus
      simp only [tryIntoPooledEip4844, hconsensus, RecoveredTx.map, transactionFrom, hattach,
        tryFromEip4844, and_self]

theorem conversions_of_others {p : CosmosEnvelope P} (hnone : sidecarOf T (S := S) p = none)
    (signer : Address) (sidecar : S) :
    (fromPooled ⟨p, signer⟩ : CosmosPoolTransaction T S).tryIntoPooledEip4844 (P := P) sidecar =
        none ∧
      tryFromEip4844 P ⟨transactionFrom T S p, signer⟩ sidecar = none := by
  have hconsensus := fromPooled_intoConsensus hdoc ⟨p, signer⟩
  have hother : isEip4844 (transactionFrom T S p) = false := by
    have hiff := isEip4844_iff hdoc p
    rw [hnone] at hiff
    simpa using hiff
  cases p with
  | cosmos t =>
      simp only [intoConsensus] at hconsensus
      simp only [tryIntoPooledEip4844, hconsensus, RecoveredTx.map, transactionFrom,
        tryFromEip4844, and_self]
  | ethereum t =>
      obtain ⟨e, hattach⟩ := hdoc.attach_only_blobs (EthereumPool.intoConsensus S t) sidecar hother
      simp only [intoConsensus] at hconsensus
      simp only [tryIntoPooledEip4844, hconsensus, RecoveredTx.map, transactionFrom, hattach,
        tryFromEip4844, and_self]

end Conversions

end CosmosPoolTransaction

/-! ## Moving between the forms -/

open CosmosPoolTransaction in
/-- An entry keeps the transaction, its signer, its hash and the length of the pooled form.
The sidecar of a blob transaction is there for one call, and the conversions between entry,
pooled form and consensus form undo each other. Other transactions have no sidecar, and no
conversion loses any of them. -/
theorem pool_conversions_keep_identity_and_sidecar (T P S : Type) [TransactionAccessors T]
    [Typed2718 T] [TxHashRef T] [TxHashRef P] [Encodable2718 P] [EthereumPool T P S]
    (hdoc : EthereumPool.Documented T P S) :
    (∀ (p : CosmosEnvelope P) (signer : Address),
      let c : CosmosPoolTransaction T S := fromPooled ⟨p, signer⟩
      (c.intoConsensus = ⟨transactionFrom T S p, signer⟩ ∧ c.hash = txHash p ∧
        c.sender = signer ∧ c.encodedLength = encode2718Len p) ∧
      (∀ sidecar, sidecarOf T p = some sidecar →
        (∀ n, takeBlobs (n + 1) c = .present sidecar :: List.replicate n .missing) ∧
        c.tryIntoPooledEip4844 sidecar = some ⟨p, signer⟩ ∧
        tryFromEip4844 P c.intoConsensus sidecar = some c) ∧
      (sidecarOf T (S := S) p = none →
        (∀ n, takeBlobs n c = List.replicate n .none) ∧
        (∀ sidecar, c.tryIntoPooledEip4844 (P := P) sidecar = none ∧
          tryFromEip4844 P c.intoConsensus sidecar = none) ∧
        pooledTryFrom P S (transactionFrom T S p) = .ok p)) ∧
    (∀ t : CosmosEnvelope T,
      ((∃ e, pooledTryFrom P S t = .error e) ↔ isEip4844 t = true) ∧
      ∀ e, pooledTryFrom P S t = .error e → e.value = t) := by
  constructor
  · intro p signer c
    have hconsensus : c.intoConsensus = ⟨transactionFrom T S p, signer⟩ :=
      fromPooled_intoConsensus hdoc ⟨p, signer⟩
    have htransaction : c.inner.transaction = ⟨transactionFrom T S p, signer⟩ := hconsensus
    have hblobs := isEip4844_iff hdoc p
    refine ⟨⟨hconsensus, ?_, ?_, fromPooled_encodedLength ⟨p, signer⟩⟩, ?_, ?_⟩
    · have hhash : c.hash = txHash c.inner.transaction.tx := rfl
      rw [hhash, htransaction]
      exact transactionFrom_txHash hdoc p
    · have hsender : c.sender = c.inner.transaction.signer := rfl
      rw [hsender, htransaction]
    · intro sidecar hsidecar
      have hheld := fromPooled_blobSidecar hdoc ⟨p, signer⟩
      simp only [hsidecar] at hheld
      have hconversions := conversions_of_blobs hdoc hsidecar signer
      refine ⟨?_, hconversions.1, ?_⟩
      · intro n
        rw [takeBlobs_succ, hheld]
        rw [htransaction, hblobs, hsidecar]
        rfl
      · rw [hconsensus]
        exact hconversions.2
    · intro hnone
      refine ⟨?_, ?_, pooledTryFrom_transactionFrom hdoc hnone⟩
      · intro n
        apply takeBlobs_none
        rw [htransaction, Bool.eq_false_iff, ne_eq, hblobs, hnone]
        simp
      · intro sidecar
        rw [hconsensus]
        exact conversions_of_others hdoc hnone signer sidecar
  · intro t
    rcases pooledTryFrom_cases hdoc t with ⟨hother, p, hok⟩ | ⟨hblobs, e, herror, hvalue⟩
    · rw [hok, hother]
      simp
    · rw [herror, hblobs]
      refine ⟨by simp, ?_⟩
      intro e' heq
      obtain rfl := Except.error.inj heq
      exact hvalue

open Sample CosmosPoolTransaction in
/-- The sample blob transaction, with its sidecar taken three times. -/
theorem sample_blob_keeps_its_sidecar :
    let p : CosmosEnvelope PooledEth := .ethereum (.blob sidecar)
    let c : CosmosPoolTransaction Eth BlobTransactionSidecarVariant :=
      fromPooled ⟨p, Legacy.sender⟩
    c.intoConsensus = ⟨.ethereum .blob, Legacy.sender⟩ ∧
      takeBlobs 3 c = [.present sidecar, .missing, .missing] ∧
      c.tryIntoPooledEip4844 sidecar = some ⟨p, Legacy.sender⟩ ∧
      tryFromEip4844 PooledEth c.intoConsensus sidecar = some c := by
  intro p c
  obtain ⟨hforms, _⟩ := pool_conversions_keep_identity_and_sidecar Eth PooledEth
    BlobTransactionSidecarVariant ethereumPool_documented
  obtain ⟨⟨hconsensus, _⟩, hblobs, _⟩ := hforms p Legacy.sender
  obtain ⟨htake, hinto, hfrom⟩ := hblobs sidecar rfl
  exact ⟨hconsensus, htake 2, hinto, hfrom⟩

end RethCosmos
