import RethCosmos.Payload.Trace

/-!
# The stream of the pool

The pool reacts to what the builder tells it: behind a rejected transaction it hands out
none that depends on it, and behind the call to skip blobs no blob transaction. A build
over such a stream is a build over the list of the transactions that are handed out, and
what the pool promises shows in the fates of the rest.
-/

namespace RethCosmos.Payload

open Encoding Rust Upstream Primitives CosmosAuth

variable {T ε τ : Type} [TransactionAccessors T]

/-- Of the same sender, with this nonce or a later one. -/
def DependsOn (turn : Turn T ε)
    (poolTx : CosmosPoolTransaction T BlobTransactionSidecarVariant) : Prop :=
  turn.poolTx.sender = poolTx.sender ∧
    nonce poolTx.inner.transaction.tx ≤ nonce turn.poolTx.inner.transaction.tx

instance (turn : Turn T ε)
    (poolTx : CosmosPoolTransaction T BlobTransactionSidecarVariant) :
    Decidable (DependsOn turn poolTx) :=
  inferInstanceAs (Decidable (_ ∧ _))

/-- What the pool still hands out behind a call. -/
def keepsBehind : StreamCall T → Turn T ε → Bool
  | .markInvalid poolTx _, turn => ¬ DependsOn turn poolTx
  | .skipBlobs, turn => turn.txBlobCount.isNone

/-- The iterator over the best transactions of a pool. -/
def bestTransactions : LiveStream (List (Turn T ε)) (Turn T ε) (StreamCall T) :=
  LiveStream.filtering keepsBehind

def StreamCall.isSkipBlobs : StreamCall T → Bool
  | .markInvalid _ _ => false
  | .skipBlobs => true

variable [TxHashRef T] [Encodable2718 T] [RlpBlockSize]

/-- The loop over a stream that listens. -/
def driveBest (env : Env) (stream : LiveStream τ (Turn T ε) (StreamCall T)) (fuel : Nat) (t : τ) :
    Outcome (Stop ε) (Option (State T ε)) :=
  stream.drive (body env) State.newCalls fuel t .start

variable {env : Env} {state state' : State T ε} {turn : Turn T ε}

theorem Turned.newCalls_eq {fate : Fate T ε} (hturned : Turned env state turn fate state') :
    state.newCalls state' = fate.calls turn := by
  rw [State.newCalls, hturned.calls_eq, List.drop_left]

theorem Turned.isSome_of_skipsBlobs {entry : Executed T ε}
    (hturned : Turned env state turn (.included entry true) state') :
    turn.txBlobCount.isSome = true := by
  cases hcount : turn.txBlobCount with
  | some n => rfl
  | none => simpa [hcount] using hturned.skipsBlobs_eq

/-- Behind the fate of a transaction the stream keeps what it promised for its calls. -/
def KeptBehind (earlier later : Turn T ε × Fate T ε) : Prop :=
  (∀ error, earlier.2 = .rejected error → ¬ DependsOn later.1 earlier.1.poolTx) ∧
    ∀ entry, earlier.2 = .included entry true → later.1.txBlobCount = none

omit [TxHashRef T] [Encodable2718 T] [RlpBlockSize] in
theorem keptBehind_of_calls {earlier later : Turn T ε × Fate T ε}
    (hcalls : ∀ call ∈ earlier.2.calls earlier.1, keepsBehind call later.1 = true) :
    KeptBehind earlier later := by
  constructor
  · intro error hfate
    simpa [hfate, Fate.calls, keepsBehind] using hcalls
  · intro entry hfate
    simpa [hfate, Fate.calls, keepsBehind] using hcalls

/-- A transaction without blobs does not fill the block up with them. -/
theorem Turned.countP_eq_zero {fate : Fate T ε} (hturned : Turned env state turn fate state')
    (hnone : turn.txBlobCount = none) :
    (fate.calls turn).countP StreamCall.isSkipBlobs = 0 := by
  match fate with
  | .included entry true =>
      have hblobs := hturned.isSome_of_skipsBlobs
      simp [hnone] at hblobs
  | .included entry false => rfl
  | .rejected error => rfl
  | .nonceTooLow => rfl

theorem countP_isSkipBlobs_eq_zero {steps : List (Turn T ε × Fate T ε)}
    (hrun : Run (Turned env) state steps state')
    (hnone : ∀ step ∈ steps, step.1.txBlobCount = none) :
    (steps.flatMap fun step => step.2.calls step.1).countP StreamCall.isSkipBlobs = 0 := by
  induction hrun with
  | nil => rfl
  | cons hturned _ ih =>
      obtain ⟨hfirst, hrest⟩ := List.forall_mem_cons.mp hnone
      rw [List.flatMap_cons, List.countP_append, hturned.countP_eq_zero hfirst, ih hrest]

/-- Only a blob transaction fills the block up with blobs, and none comes behind it. -/
theorem countP_isSkipBlobs_le_one {steps : List (Turn T ε × Fate T ε)}
    (hrun : Run (Turned env) state steps state') (hkept : steps.Pairwise KeptBehind) :
    (steps.flatMap fun step => step.2.calls step.1).countP StreamCall.isSkipBlobs ≤ 1 := by
  induction hrun with
  | nil => exact Nat.zero_le 1
  | @cons s middle s' turn fate steps hturned hrest ih =>
      obtain ⟨hbehind, hlater⟩ := List.pairwise_cons.mp hkept
      rw [List.flatMap_cons, List.countP_append]
      match fate with
      | .included entry true =>
          -- this is the call, and what the stream hands out behind it has no blobs
          rw [countP_isSkipBlobs_eq_zero hrest fun step hmem => (hbehind step hmem).2 entry rfl]
          rfl
      | .included entry false => simpa [Fate.calls] using ih hlater
      | .rejected error => simpa [Fate.calls, StreamCall.isSkipBlobs] using ih hlater
      | .nonceTooLow => simpa [Fate.calls] using ih hlater

end RethCosmos.Payload
