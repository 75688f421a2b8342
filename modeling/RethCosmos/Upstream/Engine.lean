import RethCosmos.Upstream.Accessors
import RethCosmos.Upstream.Execution

/-!
# Engine API data

An execution payload with its sidecar, as the Engine API passes a block on, and the context
that the executor of a block starts from. The version of a payload decides which of the
fields it has.
-/

namespace RethCosmos.Upstream

open Encoding Rust

variable {α H V : Type}

/-! ## Payloads -/

/-- The fields of a header that Engine data and the execution context are read off. -/
class EngineHeader (H : Type) where
  parentHash : H → FixedBytes 32
  parentBeaconBlockRoot : H → Option (FixedBytes 32)
  extraData : H → Bytes
  slotNumber : H → Option (BitVec 64)

/-- An execution payload of any version. -/
class ExecutionPayload (V : Type) where
  transactions : V → List (List UInt8)
  parentHash : V → FixedBytes 32
  withdrawals : V → Option (List Withdrawal)
  extraData : V → Bytes
  /-- Only the latest version has one. -/
  slotNumber : V → Option (BitVec 64)

structure CancunPayloadFields where
  parentBeaconBlockRoot : FixedBytes 32
  versionedHashes : List (FixedBytes 32)
  deriving DecidableEq

structure PraguePayloadFields where
  requests : Requests

structure ExecutionPayloadSidecar where
  cancun : Option CancunPayloadFields
  prague : Option PraguePayloadFields

namespace ExecutionPayloadSidecar

def v4 (cancun : CancunPayloadFields) (prague : PraguePayloadFields) : ExecutionPayloadSidecar where
  cancun := some cancun
  prague := some prague

def parentBeaconBlockRoot (sidecar : ExecutionPayloadSidecar) : Option (FixedBytes 32) :=
  sidecar.cancun.map CancunPayloadFields.parentBeaconBlockRoot

def versionedHashes (sidecar : ExecutionPayloadSidecar) : Option (List (FixedBytes 32)) :=
  sidecar.cancun.map CancunPayloadFields.versionedHashes

def requests (sidecar : ExecutionPayloadSidecar) : Option Requests :=
  sidecar.prague.map PraguePayloadFields.requests

end ExecutionPayloadSidecar

/-- The payload and the sidecar of a block, with the access list if there is one. -/
class FromBlockUncheckedWithExtras (V B : Type) where
  fromBlockUncheckedWithExtras : FixedBytes 32 → B → Option Bytes → V × ExecutionPayloadSidecar

export FromBlockUncheckedWithExtras (fromBlockUncheckedWithExtras)

/-- The versioned hashes of all blob transactions of a body, in order. -/
def BlockBody.blobVersionedHashesIter [TransactionAccessors α] (body : BlockBody α H) :
    List (FixedBytes 32) :=
  body.transactions.flatMap fun tx => (blobVersionedHashes tx).getD []

/-- What is documented of the conversion: the transactions are those of the body in their typed
envelopes, the other fields are those of the header and the body, and the sidecar has the
Cancun fields exactly if the header has a beacon root. -/
structure FromBlockUncheckedWithExtras.Documented (V α H : Type) [ExecutionPayload V]
    [EngineHeader H] [Encodable2718 α] [TransactionAccessors α]
    [FromBlockUncheckedWithExtras V (H × BlockBody α H)] : Prop where
  transactions : ∀ hash (header : H) (body : BlockBody α H) bal,
    ExecutionPayload.transactions
        (fromBlockUncheckedWithExtras (V := V) hash (header, body) bal).1 =
      body.transactions.map encode2718
  parentHash : ∀ hash (header : H) (body : BlockBody α H) bal,
    ExecutionPayload.parentHash
        (fromBlockUncheckedWithExtras (V := V) hash (header, body) bal).1 =
      EngineHeader.parentHash header
  extraData : ∀ hash (header : H) (body : BlockBody α H) bal,
    ExecutionPayload.extraData
        (fromBlockUncheckedWithExtras (V := V) hash (header, body) bal).1 =
      EngineHeader.extraData header
  withdrawals : ∀ hash (header : H) (body : BlockBody α H) bal withdrawals,
    body.withdrawals = some withdrawals →
      ExecutionPayload.withdrawals
        (fromBlockUncheckedWithExtras (V := V) hash (header, body) bal).1 = some withdrawals
  cancun : ∀ hash (header : H) (body : BlockBody α H) bal,
    (fromBlockUncheckedWithExtras (V := V) hash (header, body) bal).2.cancun =
      (EngineHeader.parentBeaconBlockRoot header).map fun root =>
        ⟨root, body.blobVersionedHashesIter⟩

/-! ## Execution context -/

structure EthBlockExecutionCtx (H : Type) where
  txCountHint : Option Nat
  parentHash : FixedBytes 32
  parentBeaconBlockRoot : Option (FixedBytes 32)
  ommers : List H
  withdrawals : Option (List Withdrawal)
  extraData : Bytes
  slotNumber : Option (BitVec 64)

end RethCosmos.Upstream
