import RethCosmos.Primitives.Envelope
import RethCosmos.Upstream.Execution
import RethCosmos.Upstream.Sidecar

/-!
# Built payloads

The payload a build ends with, and its conversions to the envelopes of the Engine API. An
envelope takes the sidecars of one variant only.
-/

namespace RethCosmos.Payload

open Encoding Rust Upstream Primitives CosmosAuth

/-! ## Envelopes -/

/-- The execution payload `V` that is read off a block `B` and its hash, unchecked. -/
class FromBlockUnchecked (V B : Type) where
  fromBlockUnchecked : B256 → B → V

class FromBlockUncheckedWithBal (V B : Type) where
  fromBlockUncheckedWithBal : B256 → B → Bytes → V

export FromBlockUnchecked (fromBlockUnchecked)
export FromBlockUncheckedWithBal (fromBlockUncheckedWithBal)

structure ExecutionPayloadEnvelopeV2 (V : Type) where
  executionPayload : V
  blockValue : U256

structure ExecutionPayloadEnvelopeV3 (V : Type) where
  executionPayload : V
  blockValue : U256
  blobsBundle : BlobsBundleV1
  shouldOverrideBuilder : Bool

structure ExecutionPayloadEnvelopeV4 (V : Type) where
  envelopeInner : ExecutionPayloadEnvelopeV3 V
  executionRequests : Requests

structure ExecutionPayloadEnvelopeV5 (V : Type) where
  executionPayload : V
  blockValue : U256
  blobsBundle : BlobsBundleV2
  shouldOverrideBuilder : Bool
  executionRequests : Requests

abbrev ExecutionPayloadEnvelopeV6 := ExecutionPayloadEnvelopeV5

inductive BuiltPayloadConversionError
  | unexpectedEip4844Sidecars
  | unexpectedEip7594Sidecars
  | missingBlockAccessList
  deriving DecidableEq, Repr

/-- The bundle of the envelopes before Osaka. -/
def blobsBundleV1 : BlobSidecars → Except BuiltPayloadConversionError BlobsBundleV1
  | .empty => .ok BlobsBundleV1.empty
  | .eip4844 sidecars => .ok (BlobsBundleV1.ofSidecars sidecars)
  | .eip7594 _ => .error .unexpectedEip7594Sidecars

/-- The bundle of the envelopes from Osaka on. -/
def blobsBundleV2 : BlobSidecars → Except BuiltPayloadConversionError BlobsBundleV2
  | .empty => .ok BlobsBundleV2.empty
  | .eip7594 sidecars => .ok (BlobsBundleV2.ofSidecars sidecars)
  | .eip4844 _ => .error .unexpectedEip4844Sidecars

/-! ## The payload -/

structure CosmosBuiltPayload (T H : Type) where
  block : RecoveredBlock (CosmosEnvelope T) H
  fees : U256
  sidecars : BlobSidecars
  requests : Option Requests
  blockAccessList : Option Bytes

namespace CosmosBuiltPayload

variable {T H V : Type}

def new (block : RecoveredBlock (CosmosEnvelope T) H) (fees : U256) (requests : Option Requests)
    (blockAccessList : Option Bytes) : CosmosBuiltPayload T H :=
  { block, fees, requests, sidecars := .empty, blockAccessList }

def withSidecars (payload : CosmosBuiltPayload T H) (sidecars : BlobSidecars) :
    CosmosBuiltPayload T H :=
  { payload with sidecars }

section

variable [FromBlockUnchecked V (H × BlockBody (CosmosEnvelope T) H)]
  (payload : CosmosBuiltPayload T H)

def intoV1 : V := fromBlockUnchecked payload.block.hash payload.block.intoBlock

def intoV2 : ExecutionPayloadEnvelopeV2 V where
  executionPayload := fromBlockUnchecked payload.block.hash payload.block.intoBlock
  blockValue := payload.fees

def tryIntoV3 : Except BuiltPayloadConversionError (ExecutionPayloadEnvelopeV3 V) := do
  let blobsBundle ← blobsBundleV1 payload.sidecars
  return {
    executionPayload := fromBlockUnchecked payload.block.hash payload.block.intoBlock
    blockValue := payload.fees
    shouldOverrideBuilder := false
    blobsBundle }

def tryIntoV4 : Except BuiltPayloadConversionError (ExecutionPayloadEnvelopeV4 V) := do
  let executionRequests := payload.requests.getD []
  return { executionRequests, envelopeInner := ← tryIntoV3 { payload with requests := none } }

def tryIntoV5 : Except BuiltPayloadConversionError (ExecutionPayloadEnvelopeV5 V) := do
  let blobsBundle ← blobsBundleV2 payload.sidecars
  return {
    executionPayload := fromBlockUnchecked payload.block.hash payload.block.intoBlock
    blockValue := payload.fees
    shouldOverrideBuilder := false
    blobsBundle
    executionRequests := payload.requests.getD [] }

end

def tryIntoV6 [FromBlockUncheckedWithBal V (H × BlockBody (CosmosEnvelope T) H)]
    (payload : CosmosBuiltPayload T H) :
    Except BuiltPayloadConversionError (ExecutionPayloadEnvelopeV6 V) := do
  let blockAccessList ←
    match payload.blockAccessList with
    | some blockAccessList => .ok blockAccessList
    | none => .error .missingBlockAccessList
  let blobsBundle ← blobsBundleV2 payload.sidecars
  return {
    executionPayload :=
      fromBlockUncheckedWithBal payload.block.hash payload.block.intoBlock blockAccessList
    blockValue := payload.fees
    shouldOverrideBuilder := false
    blobsBundle
    executionRequests := payload.requests.getD [] }

end CosmosBuiltPayload

/-! ## Bundles of uniform sidecars -/

theorem blobsBundleV1_of_uniform {sidecars : BlobSidecars} (huniform : sidecars.Uniform false) :
    ∃ bundle, blobsBundleV1 sidecars = .ok bundle ∧
      bundle.blobs = sidecars.toList.flatMap BlobTransactionSidecarVariant.blobs := by
  cases sidecars with
  | empty => exact ⟨_, rfl, rfl⟩
  | eip4844 sidecars =>
      refine ⟨_, rfl, ?_⟩
      rw [BlobSidecars.toList, List.flatMap_map]
      rfl
  | eip7594 sidecars => exact absurd huniform (by simp [BlobSidecars.Uniform])

theorem blobsBundleV2_of_uniform {sidecars : BlobSidecars} (huniform : sidecars.Uniform true) :
    ∃ bundle, blobsBundleV2 sidecars = .ok bundle ∧
      bundle.blobs = sidecars.toList.flatMap BlobTransactionSidecarVariant.blobs := by
  cases sidecars with
  | empty => exact ⟨_, rfl, rfl⟩
  | eip4844 sidecars => exact absurd huniform (by simp [BlobSidecars.Uniform])
  | eip7594 sidecars =>
      refine ⟨_, rfl, ?_⟩
      rw [BlobSidecars.toList, List.flatMap_map]
      rfl

section Conversions

variable {T H V : Type} [FromBlockUnchecked V (H × BlockBody (CosmosEnvelope T) H)]
  {payload : CosmosBuiltPayload T H}

namespace CosmosBuiltPayload

/-- Before Osaka both envelopes take the payload, with all its blobs. -/
theorem tryInto_before_osaka (huniform : payload.sidecars.Uniform false) :
    (∃ envelope : ExecutionPayloadEnvelopeV3 V, payload.tryIntoV3 = .ok envelope ∧
      envelope.blobsBundle.blobs =
        payload.sidecars.toList.flatMap BlobTransactionSidecarVariant.blobs) ∧
    (∃ envelope : ExecutionPayloadEnvelopeV4 V, payload.tryIntoV4 = .ok envelope ∧
      envelope.envelopeInner.blobsBundle.blobs =
        payload.sidecars.toList.flatMap BlobTransactionSidecarVariant.blobs) := by
  obtain ⟨bundle, hbundle, hblobs⟩ := blobsBundleV1_of_uniform huniform
  constructor
  · rw [tryIntoV3, hbundle]
    exact ⟨_, rfl, hblobs⟩
  · rw [tryIntoV4, tryIntoV3, hbundle]
    exact ⟨_, rfl, hblobs⟩

theorem tryInto_from_osaka (huniform : payload.sidecars.Uniform true) :
    ∃ envelope : ExecutionPayloadEnvelopeV5 V, payload.tryIntoV5 = .ok envelope ∧
      envelope.blobsBundle.blobs =
        payload.sidecars.toList.flatMap BlobTransactionSidecarVariant.blobs := by
  obtain ⟨bundle, hbundle, hblobs⟩ := blobsBundleV2_of_uniform huniform
  rw [tryIntoV5, hbundle]
  exact ⟨_, rfl, hblobs⟩

end CosmosBuiltPayload

end Conversions

end RethCosmos.Payload
