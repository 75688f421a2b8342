import Mathlib.Logic.Relation
import RethCosmos.Pool

/-!
# Runs of conversions

A transaction goes through its pooled form, its pool entry and its consensus form in any
order: it is announced and requested, its sidecar is taken into the blob store, its block is
mined and reverted. In every run it stays the transaction that it was, and a blob
transaction comes back as long as its sidecar was taken before its entry was given up.
-/

namespace RethCosmos

open Encoding Rust Upstream CosmosAuth Primitives

variable {T P S K ε : Type}

/-- A transaction as a blob transaction, if it is one, with the check of a sidecar against it
under the KZG settings `K`. -/
class AsEip4844 (T S K ε : Type) where
  asEip4844 : T → Option (S → K → Except ε PUnit)

inductive BlobTransactionValidationError (ε : Type)
  | notBlobTransaction (ty : UInt8)
  | other (e : ε)

namespace CosmosPoolTransaction

def validateBlob [Typed2718 T] [AsEip4844 T S K ε] (c : CosmosPoolTransaction T S) (sidecar : S)
    (settings : K) : Except (BlobTransactionValidationError ε) PUnit :=
  match c.inner.transaction.tx with
  | .cosmos _ => .error (.notBlobTransaction (ty c.inner.transaction.tx))
  | .ethereum tx =>
      match AsEip4844.asEip4844 tx with
      | some validate => (validate sidecar settings).mapError .other
      | none => .error (.notBlobTransaction (ty c.inner.transaction.tx))

/-- The entry of a blob transaction, with its sidecar taken. -/
def emptied (c : CosmosPoolTransaction T S) : CosmosPoolTransaction T S :=
  ⟨{ c.inner with blobSidecar := .missing }⟩

section Take

variable [Typed2718 T] {c : CosmosPoolTransaction T S}

theorem takeBlob_of_blobs (hblobs : isEip4844 c.inner.transaction.tx = true) :
    c.takeBlob = (c.inner.blobSidecar, c.emptied) := by
  rw [takeBlob, if_pos hblobs, emptied]

theorem takeBlob_of_others (hother : isEip4844 c.inner.transaction.tx = false) :
    c.takeBlob = (.none, c) := by
  rw [takeBlob, hother]
  rfl

/-- There is nothing to take for a second time. -/
theorem takeBlob_emptied (hblobs : isEip4844 c.inner.transaction.tx = true) :
    c.emptied.takeBlob = (.missing, c.emptied) :=
  takeBlob_of_blobs hblobs

end Take

end CosmosPoolTransaction

/-! ## Places -/

inductive Form (T P S : Type)
  | pooled (tx : RecoveredTx (CosmosEnvelope P))
  | entry (c : CosmosPoolTransaction T S)
  | consensus (tx : RecoveredTx (CosmosEnvelope T))

/-- The form that a transaction is in, and its sidecar in the blob store. -/
structure Place (T P S : Type) where
  form : Form T P S
  stored : Option S

namespace Place

def hash [TxHashRef T] [TxHashRef P] (place : Place T P S) : B256 :=
  match place.form with
  | .pooled tx => txHash tx.tx
  | .entry c => c.hash
  | .consensus tx => txHash tx.tx

def signer (place : Place T P S) : Address :=
  match place.form with
  | .pooled tx => tx.signer
  | .entry c => c.sender
  | .consensus tx => tx.signer

/-- A blob transaction without its sidecar. -/
def Lost [Typed2718 T] (place : Place T P S) : Prop :=
  ∃ tx, place = ⟨.consensus tx, none⟩ ∧ isEip4844 tx.tx = true

end Place

/-- What is in the store after `take_blob`. -/
def storeBlob (stored : Option S) : EthBlobTransactionSidecar S → Option S
  | .none => stored
  | .missing => stored
  | .present sidecar => some sidecar

section Conversions

open CosmosPoolTransaction (fromPooled sidecarOf)

variable [TransactionAccessors T] [Typed2718 T] [Encodable2718 P] [EthereumPool T P S]

/-- One conversion. Sidecars are attached from the store. -/
inductive Converts : Place T P S → Place T P S → Prop
  | fromPooled {tx stored} :
      Converts ⟨.pooled tx, stored⟩ ⟨.entry (fromPooled tx), stored⟩
  | transactionFrom {tx stored} :
      Converts ⟨.pooled tx, stored⟩ ⟨.consensus (tx.map (transactionFrom T S)), stored⟩
  | takeBlob {c stored} :
      Converts ⟨.entry c, stored⟩ ⟨.entry c.takeBlob.2, storeBlob stored c.takeBlob.1⟩
  | intoConsensus {c stored} :
      Converts ⟨.entry c, stored⟩ ⟨.consensus c.intoConsensus, stored⟩
  | tryIntoPooledEip4844 {c sidecar tx} (h : c.tryIntoPooledEip4844 sidecar = some tx) :
      Converts ⟨.entry c, some sidecar⟩ ⟨.pooled tx, some sidecar⟩
  | tryFromEip4844 {tx sidecar c}
      (h : CosmosPoolTransaction.tryFromEip4844 P tx sidecar = some c) :
      Converts ⟨.consensus tx, some sidecar⟩ ⟨.entry c, some sidecar⟩
  | pooledTryFrom {tx stored p} (h : pooledTryFrom P S tx.tx = .ok p) :
      Converts ⟨.consensus tx, stored⟩ ⟨.pooled ⟨p, tx.signer⟩, stored⟩

/-- A run that brings the transaction back in its pooled form. -/
def Place.Returns (place : Place T P S) (tx : RecoveredTx (CosmosEnvelope P)) : Prop :=
  ∃ stored, Relation.ReflTransGen Converts place ⟨.pooled tx, stored⟩

/-- What is in the store is the sidecar of the transaction. -/
def StoredOf (T : Type) [EthereumPool T P S] (p : CosmosEnvelope P) (stored : Option S) : Prop :=
  ∀ sidecar, stored = some sidecar → sidecarOf T p = some sidecar

omit [TransactionAccessors T] [Typed2718 T] [Encodable2718 P] in
theorem storedOf_some {p : CosmosEnvelope P} {sidecar : S}
    (hsidecar : sidecarOf T p = some sidecar) : StoredOf T p (some sidecar) := by
  intro sidecar' heq
  obtain rfl := Option.some.inj heq
  exact hsidecar

/-- Everywhere in a run the transaction is one of its own forms. Only what is in the store is
missing from its entry. -/
inductive Stays (p : CosmosEnvelope P) (signer : Address) : Place T P S → Prop
  | pooled {stored} (hstored : StoredOf T p stored) :
      Stays p signer ⟨.pooled ⟨p, signer⟩, stored⟩
  | entry {stored} (hstored : StoredOf T p stored) :
      Stays p signer ⟨.entry (fromPooled ⟨p, signer⟩), stored⟩
  | emptied {sidecar} (hsidecar : sidecarOf T p = some sidecar) :
      Stays p signer
        ⟨.entry (fromPooled ⟨p, signer⟩ : CosmosPoolTransaction T S).emptied, some sidecar⟩
  | consensus {stored} (hstored : StoredOf T p stored) :
      Stays p signer ⟨.consensus ⟨transactionFrom T S p, signer⟩, stored⟩

/-! ## Steps -/

section Steps

variable [TxHashRef T] [TxHashRef P] (hdoc : EthereumPool.Documented T P S)
  {p : CosmosEnvelope P} {signer : Address}
include hdoc

theorem fromPooled_transaction (p : CosmosEnvelope P) (signer : Address) :
    (fromPooled ⟨p, signer⟩ : CosmosPoolTransaction T S).inner.transaction =
      ⟨transactionFrom T S p, signer⟩ :=
  CosmosPoolTransaction.fromPooled_intoConsensus hdoc ⟨p, signer⟩

theorem takeBlob_fromPooled_of_blobs {sidecar : S} (hsidecar : sidecarOf T p = some sidecar) :
    (fromPooled ⟨p, signer⟩ : CosmosPoolTransaction T S).takeBlob =
      (.present sidecar, (fromPooled ⟨p, signer⟩ : CosmosPoolTransaction T S).emptied) := by
  have hblobs : isEip4844
      (fromPooled ⟨p, signer⟩ : CosmosPoolTransaction T S).inner.transaction.tx = true := by
    rw [fromPooled_transaction hdoc, CosmosPoolTransaction.isEip4844_iff hdoc, hsidecar]
    rfl
  have hheld := CosmosPoolTransaction.fromPooled_blobSidecar hdoc ⟨p, signer⟩
  simp only [hsidecar] at hheld
  rw [CosmosPoolTransaction.takeBlob_of_blobs hblobs, hheld]

theorem takeBlob_emptied_of_blobs {sidecar : S} (hsidecar : sidecarOf T p = some sidecar) :
    (fromPooled ⟨p, signer⟩ : CosmosPoolTransaction T S).emptied.takeBlob =
      (.missing, (fromPooled ⟨p, signer⟩ : CosmosPoolTransaction T S).emptied) := by
  apply CosmosPoolTransaction.takeBlob_emptied
  rw [fromPooled_transaction hdoc, CosmosPoolTransaction.isEip4844_iff hdoc, hsidecar]
  rfl

theorem takeBlob_fromPooled_of_others (hnone : sidecarOf T (S := S) p = none) :
    (fromPooled ⟨p, signer⟩ : CosmosPoolTransaction T S).takeBlob =
      (.none, fromPooled ⟨p, signer⟩) := by
  apply CosmosPoolTransaction.takeBlob_of_others
  rw [fromPooled_transaction hdoc, Bool.eq_false_iff, ne_eq,
    CosmosPoolTransaction.isEip4844_iff hdoc, hnone]
  simp

omit [TransactionAccessors T] in
/-- A consensus form that turns into a pooled form without a sidecar turns into the one it is
from. -/
theorem eq_of_pooledTryFrom {p' : CosmosEnvelope P}
    (hok : pooledTryFrom P S (transactionFrom T S p) = .ok p') :
    sidecarOf T (S := S) p = none ∧ p' = p := by
  have hnone : sidecarOf T (S := S) p = none := by
    rcases CosmosPoolTransaction.pooledTryFrom_cases hdoc (transactionFrom T S p) with
      ⟨hother, _⟩ | ⟨_, e, herror, _⟩
    · have hiff := CosmosPoolTransaction.isEip4844_iff hdoc p
      rw [hother] at hiff
      simpa using hiff
    · simp [hok] at herror
  rw [CosmosPoolTransaction.pooledTryFrom_transactionFrom hdoc hnone] at hok
  exact ⟨hnone, (Except.ok.inj hok).symm⟩

theorem Stays.step {place next : Place T P S} (h : Stays p signer place)
    (hstep : Converts place next) : Stays p signer next := by
  cases h with
  | pooled hstored =>
      cases hstep with
      | fromPooled => exact .entry hstored
      | transactionFrom => exact .consensus hstored
  | entry hstored =>
      cases hstep with
      | takeBlob =>
          cases hsidecar : sidecarOf T (S := S) p with
          | none =>
              rw [takeBlob_fromPooled_of_others hdoc hsidecar]
              exact .entry hstored
          | some sidecar =>
              rw [takeBlob_fromPooled_of_blobs hdoc hsidecar]
              exact .emptied hsidecar
      | intoConsensus =>
          have hconsensus : (fromPooled ⟨p, signer⟩ : CosmosPoolTransaction T S).intoConsensus =
            ⟨transactionFrom T S p, signer⟩ := fromPooled_transaction hdoc p signer
          rw [hconsensus]
          exact .consensus hstored
      | @tryIntoPooledEip4844 _ sidecar tx hok =>
          have hback := (CosmosPoolTransaction.conversions_of_blobs hdoc (hstored sidecar rfl)
            signer).1
          rw [hback] at hok
          obtain rfl := Option.some.inj hok
          exact .pooled hstored
  | @emptied sidecar hsidecar =>
      cases hstep with
      | takeBlob =>
          rw [takeBlob_emptied_of_blobs hdoc hsidecar]
          exact .emptied hsidecar
      | intoConsensus =>
          have hconsensus : (fromPooled ⟨p, signer⟩ :
            CosmosPoolTransaction T S).emptied.intoConsensus = ⟨transactionFrom T S p, signer⟩ :=
            fromPooled_transaction hdoc p signer
          rw [hconsensus]
          exact .consensus (storedOf_some hsidecar)
      | @tryIntoPooledEip4844 _ _ tx hok =>
          have hback := (CosmosPoolTransaction.conversions_of_blobs hdoc hsidecar signer).1
          obtain rfl := Option.some.inj (hback.symm.trans hok)
          exact .pooled (storedOf_some hsidecar)
  | consensus hstored =>
      cases hstep with
      | @tryFromEip4844 _ sidecar _ hok =>
          have hback := (CosmosPoolTransaction.conversions_of_blobs hdoc (hstored sidecar rfl)
            signer).2
          rw [hback] at hok
          obtain rfl := Option.some.inj hok
          exact .entry hstored
      | pooledTryFrom hok =>
          -- no blob transaction gets here, so nothing had to be attached
          obtain ⟨_, rfl⟩ := eq_of_pooledTryFrom hdoc hok
          exact .pooled hstored

theorem Stays.run {place later : Place T P S} (h : Stays p signer place)
    (hrun : Relation.ReflTransGen Converts place later) : Stays p signer later := by
  induction hrun with
  | refl => exact h
  | tail _ hstep ih => exact ih.step hdoc hstep

/-! ## Coming back -/

/-- No conversion makes up a sidecar. -/
theorem not_converts_of_lost {place next : Place T P S}
    (hlost : place.Lost) : ¬ Converts place next := by
  obtain ⟨tx, rfl, hblobs⟩ := hlost
  intro hstep
  cases hstep with
  | pooledTryFrom hok =>
      rcases CosmosPoolTransaction.pooledTryFrom_cases hdoc tx.tx with
        ⟨hother, _⟩ | ⟨_, e, herror, _⟩
      · simp [hblobs] at hother
      · simp [hok] at herror

/-- The entry of a blob transaction comes back through the store. -/
theorem emptied_returns (signer : Address) {sidecar : S}
    (hsidecar : sidecarOf T p = some sidecar) :
    Place.Returns ⟨.entry (fromPooled ⟨p, signer⟩ : CosmosPoolTransaction T S).emptied,
      some sidecar⟩ (⟨p, signer⟩ : RecoveredTx (CosmosEnvelope P)) :=
  ⟨some sidecar, .single (.tryIntoPooledEip4844
    (CosmosPoolTransaction.conversions_of_blobs hdoc hsidecar signer).1)⟩

theorem consensus_returns_of_others (signer : Address)
    (hnone : sidecarOf T (S := S) p = none) (stored : Option S) :
    Place.Returns ⟨.consensus ⟨transactionFrom T S p, signer⟩, stored⟩
      (⟨p, signer⟩ : RecoveredTx (CosmosEnvelope P)) :=
  ⟨stored, .single (.pooledTryFrom
    (CosmosPoolTransaction.pooledTryFrom_transactionFrom hdoc hnone))⟩

theorem entry_returns (p : CosmosEnvelope P) (signer : Address) (stored : Option S) :
    Place.Returns ⟨.entry (fromPooled ⟨p, signer⟩ : CosmosPoolTransaction T S), stored⟩
      (⟨p, signer⟩ : RecoveredTx (CosmosEnvelope P)) := by
  cases hsidecar : sidecarOf T (S := S) p with
  | none =>
      obtain ⟨stored', hback⟩ := consensus_returns_of_others hdoc signer hsidecar stored
      refine ⟨stored', Relation.ReflTransGen.head .intoConsensus ?_⟩
      have hconsensus : (fromPooled ⟨p, signer⟩ : CosmosPoolTransaction T S).intoConsensus =
        ⟨transactionFrom T S p, signer⟩ := fromPooled_transaction hdoc p signer
      rw [hconsensus]
      exact hback
  | some sidecar =>
      obtain ⟨stored', hback⟩ := emptied_returns hdoc signer hsidecar
      refine ⟨stored', Relation.ReflTransGen.head .takeBlob ?_⟩
      rw [takeBlob_fromPooled_of_blobs hdoc hsidecar]
      exact hback

/-- A transaction comes back from everywhere but where its sidecar is lost. -/
theorem Stays.returns_iff {place : Place T P S} (h : Stays p signer place) :
    place.Returns ⟨p, signer⟩ ↔ ¬ place.Lost := by
  constructor
  · -- a lost place has no step, and is not the pooled form itself
    rintro ⟨stored, hback⟩ hlost
    rcases Relation.ReflTransGen.cases_head hback with heq | ⟨next, hstep, _⟩
    · obtain ⟨tx, hplace, _⟩ := hlost
      simp [hplace] at heq
    · exact not_converts_of_lost hdoc hlost hstep
  · intro hnot
    cases h with
    | @pooled stored _ => exact ⟨stored, .refl⟩
    | @entry stored _ => exact entry_returns hdoc p signer stored
    | emptied hsidecar => exact emptied_returns hdoc signer hsidecar
    | @consensus stored hstored =>
        cases hsidecar : sidecarOf T (S := S) p with
        | none => exact consensus_returns_of_others hdoc signer hsidecar stored
        | some sidecar =>
            cases stored with
            | none =>
                -- a blob transaction in consensus form with nothing in the store
                refine absurd ⟨_, rfl, ?_⟩ hnot
                rw [CosmosPoolTransaction.isEip4844_iff hdoc, hsidecar]
                rfl
            | some stored =>
                have hattach := (CosmosPoolTransaction.conversions_of_blobs hdoc
                  (hstored stored rfl) signer).2
                obtain ⟨stored', hback⟩ := entry_returns hdoc p signer (some stored)
                exact ⟨stored', .head (.tryFromEip4844 hattach) hback⟩

omit hdoc [Typed2718 T] [TxHashRef T] [TxHashRef P] in
theorem Stays.stored {place : Place T P S} (h : Stays p signer place) :
    StoredOf T p place.stored := by
  cases h with
  | pooled hstored => exact hstored
  | entry hstored => exact hstored
  | emptied hsidecar => exact storedOf_some hsidecar
  | consensus hstored => exact hstored

omit hdoc [TxHashRef T] [TxHashRef P] in
/-- The store forgets nothing. -/
theorem Converts.stored {place next : Place T P S} (hstep : Converts place next)
    (hstored : place.stored.isSome = true) : next.stored.isSome = true := by
  cases hstep with
  | @takeBlob c stored =>
      cases hblob : c.takeBlob.1 with
      | none => simpa [storeBlob, hblob] using hstored
      | missing => simpa [storeBlob, hblob] using hstored
      | present sidecar => rfl
  | _ => exact hstored

omit hdoc [TxHashRef T] [TxHashRef P] in
theorem stored_of_run {place later : Place T P S} (hstored : place.stored.isSome = true)
    (hrun : Relation.ReflTransGen Converts place later) : later.stored.isSome = true := by
  induction hrun with
  | refl => exact hstored
  | tail _ hstep ih => exact hstep.stored ih

/-- What an entry says of its transaction does not depend on its sidecar. -/
structure EntryOf (c full : CosmosPoolTransaction T S) : Prop where
  consensus : c.intoConsensus = full.intoConsensus
  cost : c.cost = full.cost
  encodedLength : c.encodedLength = full.encodedLength
  validateBlob : ∀ {K ε : Type} [AsEip4844 T S K ε] (sidecar : S) (settings : K),
    (c.validateBlob sidecar settings : Except (BlobTransactionValidationError ε) PUnit) =
      full.validateBlob sidecar settings

omit hdoc [TxHashRef T] [TxHashRef P] in
theorem Stays.entryOf {c : CosmosPoolTransaction T S} {stored : Option S}
    (h : Stays p signer ⟨.entry c, stored⟩) :
    EntryOf c (fromPooled ⟨p, signer⟩) ∧ (c = fromPooled ⟨p, signer⟩ ∨
      ∃ sidecar, sidecarOf T p = some sidecar ∧ stored = some sidecar) := by
  cases h with
  | entry _ => exact ⟨⟨rfl, rfl, rfl, fun _ _ => rfl⟩, Or.inl rfl⟩
  | @emptied sidecar hsidecar =>
      exact ⟨⟨rfl, rfl, rfl, fun _ _ => rfl⟩, Or.inr ⟨sidecar, hsidecar, rfl⟩⟩

theorem Stays.identity {place : Place T P S} (h : Stays p signer place) :
    place.hash = txHash p ∧ place.signer = signer := by
  have hhash := CosmosPoolTransaction.transactionFrom_txHash hdoc p
  have htransaction := fromPooled_transaction hdoc p signer
  cases h with
  | pooled _ => exact ⟨rfl, rfl⟩
  | entry _ =>
      have hentry : txHash (fromPooled ⟨p, signer⟩ :
        CosmosPoolTransaction T S).inner.transaction.tx = txHash p := by rw [htransaction, hhash]
      exact ⟨hentry, congrArg RecoveredTx.signer htransaction⟩
  | emptied _ =>
      have hentry : txHash (fromPooled ⟨p, signer⟩ :
        CosmosPoolTransaction T S).inner.transaction.tx = txHash p := by rw [htransaction, hhash]
      exact ⟨hentry, congrArg RecoveredTx.signer htransaction⟩
  | consensus _ => exact ⟨hhash, rfl⟩

end Steps

end Conversions

/-! ## Runs -/

open CosmosPoolTransaction (fromPooled sidecarOf) in
/-- In every run of conversions from the pooled form, whatever their order, the transaction keeps
its hash and its signer, only its own sidecar is ever stored, and every entry of it says the
same of it; a sidecar that is missing from an entry is in the store. The transaction can come
back in its pooled form from everywhere but where a consensus form is left without the
sidecar it needs, and from there nothing leads on. So once its sidecar is stored it always
comes back. -/
theorem runs_of_conversions_lose_no_transaction (T P S : Type) [TransactionAccessors T]
    [Typed2718 T] [TxHashRef T] [TxHashRef P] [Encodable2718 P] [EthereumPool T P S]
    (hdoc : EthereumPool.Documented T P S) (p : CosmosEnvelope P) (signer : Address)
    (place : Place T P S)
    (hrun : Relation.ReflTransGen Converts ⟨.pooled ⟨p, signer⟩, none⟩ place) :
    (place.hash = txHash p ∧ place.signer = signer) ∧
    (∀ sidecar, place.stored = some sidecar → sidecarOf T p = some sidecar) ∧
    (∀ c, place.form = .entry c →
      EntryOf c (fromPooled ⟨p, signer⟩) ∧ (c = fromPooled ⟨p, signer⟩ ∨
        ∃ sidecar, sidecarOf T p = some sidecar ∧ place.stored = some sidecar)) ∧
    (place.Returns ⟨p, signer⟩ ↔ ¬ place.Lost) ∧
    (place.Lost → ∀ next, ¬ Converts place next) ∧
    (place.stored.isSome = true → ∀ later, Relation.ReflTransGen Converts place later →
      later.Returns ⟨p, signer⟩) := by
  have hstart : Stays p signer (⟨.pooled ⟨p, signer⟩, none⟩ : Place T P S) :=
    .pooled (by simp [StoredOf])
  have hstays := hstart.run hdoc hrun
  refine ⟨hstays.identity hdoc, hstays.stored, ?_, hstays.returns_iff hdoc, ?_, ?_⟩
  · intro c hentry
    obtain ⟨form, stored⟩ := place
    obtain rfl : form = .entry c := hentry
    exact hstays.entryOf
  · intro hlost next
    exact not_converts_of_lost hdoc hlost
  · intro hstored later hlater
    apply ((hstays.run hdoc hlater).returns_iff hdoc).mpr
    rintro ⟨tx, rfl, _⟩
    have hkept := stored_of_run hstored hlater
    simp at hkept

open Sample in
/-- The sample blob transaction, mined after its sidecar was taken. -/
theorem sample_blob_returns :
    let mined : Place Eth PooledEth BlobTransactionSidecarVariant :=
      ⟨.consensus ⟨.ethereum .blob, Legacy.sender⟩, some sidecar⟩
    mined.Returns ⟨.ethereum (.blob sidecar), Legacy.sender⟩ := by
  intro mined
  let p : CosmosEnvelope PooledEth := .ethereum (.blob sidecar)
  have hrun : Relation.ReflTransGen Converts
      (⟨.pooled ⟨p, Legacy.sender⟩, none⟩ : Place Eth PooledEth BlobTransactionSidecarVariant)
      mined :=
    ((Relation.ReflTransGen.single .fromPooled).tail .takeBlob).tail .intoConsensus
  have hruns := runs_of_conversions_lose_no_transaction Eth PooledEth
    BlobTransactionSidecarVariant ethereumPool_documented p Legacy.sender mined hrun
  obtain ⟨_, _, _, _, _, hreturns⟩ := hruns
  exact hreturns rfl mined .refl

end RethCosmos
