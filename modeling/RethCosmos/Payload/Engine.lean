import RethCosmos.Authorization
import RethCosmos.Payload.Blobs
import RethCosmos.Payload.Size
import RethCosmos.Primitives.BlockBody
import RethCosmos.Upstream.Engine

/-!
# Engine payloads of blocks

A block goes through the Engine API as a payload of encoded transactions. What the node
reads back out of the payload is the block: the same transactions in the same order, with
the signers that recovery gives them, in the same execution context. A payload of the
node's own builder is accepted in full.
-/

namespace RethCosmos.Payload

open Encoding Rust Upstream Primitives CosmosAuth
open Crypto (Suite)

variable {T H V R E ε : Type}

/-- The Engine data of a block, of which the iterator over its transactions reads the encoded
transactions only. -/
structure EngineData (V : Type) where
  payload : V
  sidecar : ExecutionPayloadSidecar

def EngineData.executionData [ExecutionPayload V] (data : EngineData V) : ExecutionData :=
  ⟨ExecutionPayload.transactions data.payload⟩

/-! ## Conversions -/

section

variable [FromBlockUncheckedWithExtras V (H × BlockBody (CosmosEnvelope T) H)]

/-- `block_to_payload`. -/
def blockToPayload (block : RecoveredBlock (CosmosEnvelope T) H) (bal : Option Bytes) :
    EngineData V :=
  let (payload, sidecar) := fromBlockUncheckedWithExtras block.hash block.intoBlock bal
  { payload, sidecar }

/-- With requests and a beacon root, the sidecar names both. -/
def CosmosBuiltPayload.intoExecutionData [TransactionAccessors T] [EngineHeader H]
    (payload : CosmosBuiltPayload T H) : EngineData V :=
  let block := payload.block.intoBlock
  let (executionPayload, sidecar) :=
    fromBlockUncheckedWithExtras payload.block.hash block payload.blockAccessList
  let sidecar :=
    match payload.requests with
    | some requests =>
        match EngineHeader.parentBeaconBlockRoot block.1 with
        | none => sidecar
        | some parentBeaconBlockRoot =>
            .v4 ⟨parentBeaconBlockRoot, block.2.blobVersionedHashesIter⟩ ⟨requests⟩
    | none => sidecar
  { payload := executionPayload, sidecar }

end

def contextForBlock [EngineHeader H] (block : RecoveredBlock (CosmosEnvelope T) H) :
    EthBlockExecutionCtx H where
  txCountHint := some block.body.transactions.length
  parentHash := EngineHeader.parentHash block.header
  parentBeaconBlockRoot := EngineHeader.parentBeaconBlockRoot block.header
  ommers := block.body.ommers
  withdrawals := block.body.withdrawals
  extraData := EngineHeader.extraData block.header
  slotNumber := EngineHeader.slotNumber block.header

def contextForPayload (H : Type) [ExecutionPayload V] (data : EngineData V) :
    EthBlockExecutionCtx H where
  txCountHint := some (ExecutionPayload.transactions data.payload).length
  parentHash := ExecutionPayload.parentHash data.payload
  parentBeaconBlockRoot := data.sidecar.parentBeaconBlockRoot
  ommers := []
  withdrawals := ExecutionPayload.withdrawals data.payload
  extraData := ExecutionPayload.extraData data.payload
  slotNumber := ExecutionPayload.slotNumber data.payload

/-! ## Transactions -/

/-- The law of the typed envelope: a transaction is read back from its bytes. -/
def ExactForm (T : Type) [Encodable2718 T] [Decodable2718 T] : Prop :=
  ∀ t : T, decode2718Exact (encode2718 t) = .ok t

section Transactions

variable [Suite] [Encodable2718 T] [Decodable2718 T]

omit [Suite] in
/-- No standard transaction begins with the Cosmos type byte. -/
theorem ExactForm.head_ne_cosmos (hexact : ExactForm T) (hstandard : KnowsStandardTypes T) (t : T) :
    (encode2718 t).head? ≠ some txType := by
  intro hhead
  have hread := decode2718Exact_eq_ok_iff.mp (hexact t)
  cases hbytes : encode2718 t with
  | nil => simp [hbytes] at hhead
  | cons value rest =>
      rw [hbytes] at hhead hread
      -- its type byte would have to be read by the upstream decoder, which knows no Cosmos type
      obtain rfl : value = txType := by simpa using hhead
      rw [decode2718_typed (by decide)] at hread
      exact hstandard.ne_cosmos hread rfl

/-- Every transaction that a block can hold is read back from its bytes. -/
theorem ExactForm.decode2718Exact_envelope (hexact : ExactForm T)
    (hstandard : KnowsStandardTypes T) {tx : CosmosEnvelope T} (hconstructed : WellConstructed tx) :
    decode2718Exact (encode2718 tx) = .ok tx := by
  cases tx with
  | ethereum t =>
      have hread := decode2718Exact_eq_ok_iff.mp (hexact t)
      apply decode2718Exact_eq_ok_iff.mpr
      have hbytes : encode2718 (CosmosEnvelope.ethereum t) = encode2718 t := rfl
      rw [hbytes, decode2718_ethereum (hexact.head_ne_cosmos hstandard t), Cursor.map_eq_ok_iff]
      exact ⟨t, hread, rfl⟩
  | cosmos tx =>
      have hcanonical := Constructed.canonical hconstructed
      obtain ⟨body, hraw, htyped⟩ := CosmosEnvelope.typedDecode_raw (T := T) hcanonical []
      have hbytes : encode2718 (CosmosEnvelope.cosmos (T := T) tx) = tx.raw := rfl
      apply decode2718Exact_eq_ok_iff.mpr
      rw [hbytes, hraw, decode2718_typed (by decide)]
      rw [List.append_nil] at htyped
      exact htyped

variable [SignerRecoverable T]

/-- A transaction with the signer that recovery gives it. -/
def recoverItem (tx : CosmosEnvelope T) : Outcome AnyError (Recovered T) := do
  let signer ← (recoverSigner tx).mapErr .recovery
  return ⟨tx, signer⟩

omit [Encodable2718 T] [Decodable2718 T] in
theorem recoverItem_eq_ok {tx : CosmosEnvelope T} {signer : Address}
    (hsigner : recoverSigner tx = .ok signer) : recoverItem tx = .ok ⟨tx, signer⟩ := by
  rw [recoverItem, hsigner]
  rfl

theorem payloadItems_of_encoded (hexact : ExactForm T) (hstandard : KnowsStandardTypes T)
    {txs : List (CosmosEnvelope T)} (hconstructed : ∀ tx ∈ txs, WellConstructed tx) :
    payloadItems ⟨txs.map encode2718⟩ = txs.map recoverItem := by
  simp only [payloadItems, txIteratorForPayload, List.map_map]
  apply List.map_congr_left
  intro tx hmem
  have hread := hexact.decode2718Exact_envelope hstandard (hconstructed tx hmem)
  simp only [Function.comp_apply, convert, hread, Outcome.ofExcept, Outcome.mapErr,
    Outcome.ok_bind, recoverItem]

end Transactions

/-! ## Blocks -/

/-- The Engine data of a block, whichever way the node makes it. -/
structure Describes [Encodable2718 T] [TransactionAccessors T] [EngineHeader H]
    [ExecutionPayload V] (data : EngineData V) (block : RecoveredBlock (CosmosEnvelope T) H) :
    Prop where
  transactions : ExecutionPayload.transactions data.payload =
    block.body.transactions.map encode2718
  parentHash : ExecutionPayload.parentHash data.payload = EngineHeader.parentHash block.header
  extraData : ExecutionPayload.extraData data.payload = EngineHeader.extraData block.header
  withdrawals : ∀ withdrawals, block.body.withdrawals = some withdrawals →
    ExecutionPayload.withdrawals data.payload = some withdrawals
  cancun : data.sidecar.cancun = (EngineHeader.parentBeaconBlockRoot block.header).map
    fun root => ⟨root, block.body.blobVersionedHashesIter⟩

section Describes

variable [Encodable2718 T] [TransactionAccessors T] [EngineHeader H] [ExecutionPayload V]
  [FromBlockUncheckedWithExtras V (H × BlockBody (CosmosEnvelope T) H)]
  (hdoc : FromBlockUncheckedWithExtras.Documented V (CosmosEnvelope T) H)
include hdoc

theorem describes_blockToPayload (block : RecoveredBlock (CosmosEnvelope T) H)
    (bal : Option Bytes) : Describes (blockToPayload block bal : EngineData V) block where
  transactions := hdoc.transactions block.hash block.header block.body bal
  parentHash := hdoc.parentHash block.hash block.header block.body bal
  extraData := hdoc.extraData block.hash block.header block.body bal
  withdrawals := hdoc.withdrawals block.hash block.header block.body bal
  cancun := hdoc.cancun block.hash block.header block.body bal

/-- The sidecar that the builder's payload is given instead of the upstream one has the same
Cancun fields. -/
theorem describes_intoExecutionData (payload : CosmosBuiltPayload T H) :
    Describes (payload.intoExecutionData : EngineData V) payload.block := by
  have hblock := describes_blockToPayload (V := V) hdoc payload.block payload.blockAccessList
  refine ⟨hblock.transactions, hblock.parentHash, hblock.extraData, hblock.withdrawals, ?_⟩
  have hcancun := hblock.cancun
  cases hrequests : payload.requests with
  | none =>
      simp only [CosmosBuiltPayload.intoExecutionData, hrequests]
      exact hcancun
  | some requests =>
      cases hroot : EngineHeader.parentBeaconBlockRoot payload.block.header with
      | none =>
          simp only [CosmosBuiltPayload.intoExecutionData, hrequests, RecoveredBlock.intoBlock,
            hroot]
          rw [hroot] at hcancun
          exact hcancun
      | some root =>
          simp only [CosmosBuiltPayload.intoExecutionData, hrequests, RecoveredBlock.intoBlock,
            hroot]
          rfl

/-- Whichever way the data was made. -/
theorem describes_of_conversion {data : EngineData V} {block : RecoveredBlock (CosmosEnvelope T) H}
    (hdata : (∃ bal, data = blockToPayload block bal) ∨
      ∃ payload : CosmosBuiltPayload T H, payload.block = block ∧
        data = payload.intoExecutionData) : Describes data block := by
  rcases hdata with ⟨bal, rfl⟩ | ⟨payload, rfl, rfl⟩
  · exact describes_blockToPayload hdoc block bal
  · exact describes_intoExecutionData hdoc payload

end Describes

section Described

variable [Encodable2718 T] [TransactionAccessors T] [EngineHeader H] [ExecutionPayload V]
  {data : EngineData V} {block : RecoveredBlock (CosmosEnvelope T) H}

theorem Describes.payloadItems_eq [Suite] [Decodable2718 T] [SignerRecoverable T]
    (h : Describes data block) (hexact : ExactForm T) (hstandard : KnowsStandardTypes T)
    (hconstructed : ∀ tx, .cosmos tx ∈ block.body.transactions → Constructed tx) :
    payloadItems data.executionData = block.body.transactions.map recoverItem := by
  have hencoded : data.executionData = ⟨block.body.transactions.map encode2718⟩ :=
    congrArg ExecutionData.mk h.transactions
  rw [hencoded]
  apply payloadItems_of_encoded hexact hstandard
  intro tx hmem
  cases tx with
  | ethereum t => trivial
  | cosmos tx => exact hconstructed tx hmem

theorem Describes.contextForPayload_eq (h : Describes data block)
    (hommers : block.body.ommers = []) (hwithdrawals : block.body.withdrawals.isSome = true) :
    contextForPayload H data =
      { contextForBlock block with
        slotNumber := ExecutionPayload.slotNumber data.payload } := by
  obtain ⟨withdrawals, hsome⟩ := Option.isSome_iff_exists.mp hwithdrawals
  have hcount : (ExecutionPayload.transactions data.payload).length =
      block.body.transactions.length := by
    rw [h.transactions, List.length_map]
  have hroot : data.sidecar.parentBeaconBlockRoot =
      EngineHeader.parentBeaconBlockRoot block.header := by
    rw [ExecutionPayloadSidecar.parentBeaconBlockRoot, h.cancun, Option.map_map]
    cases EngineHeader.parentBeaconBlockRoot block.header <;> rfl
  simp only [contextForPayload, contextForBlock, hcount, hroot, hommers, hsome,
    h.withdrawals withdrawals hsome, h.parentHash, h.extraData]

end Described

/-- A payload is executed as the block it was made of, whether the block came from the chain or
from the builder: the iterator yields the transactions of the block in order, each with the
signer or the error that its recovery ends with, and the context of the executor is the same
but for the slot number, which only the latest version of a payload has. If the block passes
the consensus rule, every Cosmos transaction in it is yielded for the account of its
operation. -/
theorem payload_is_executed_as_its_block (T H V R ε : Type) [Suite] [Encodable2718 T]
    [Decodable2718 T] [SignerRecoverable T] [TransactionAccessors T] [EngineHeader H]
    [ExecutionPayload V] [FromBlockUncheckedWithExtras V (H × BlockBody (CosmosEnvelope T) H)]
    (hexact : ExactForm T) (hstandard : KnowsStandardTypes T)
    (hdoc : FromBlockUncheckedWithExtras.Documented V (CosmosEnvelope T) H)
    (block : RecoveredBlock (CosmosEnvelope T) H)
    (hconstructed : ∀ tx, .cosmos tx ∈ block.body.transactions → Constructed tx)
    (hommers : block.body.ommers = []) (hwithdrawals : block.body.withdrawals.isSome = true)
    (data : EngineData V)
    (hdata : (∃ bal, data = blockToPayload block bal) ∨
      ∃ payload : CosmosBuiltPayload T H, payload.block = block ∧
        data = payload.intoExecutionData) :
    payloadItems data.executionData = block.body.transactions.map recoverItem ∧
    contextForPayload H data =
      { contextForBlock block with slotNumber := ExecutionPayload.slotNumber data.payload } ∧
    ∀ consensus : CosmosConsensus T H R ε,
      consensus.verifyAuthorizations ⟨block.header, block.body.transactions⟩ = .ok ⟨⟩ →
        ∀ tx, .cosmos tx ∈ block.body.transactions →
          .ok ⟨.cosmos tx, tx.operation.sender⟩ ∈ payloadItems (T := T) data.executionData := by
  have hdescribes : Describes data block := describes_of_conversion hdoc hdata
  have hitems := hdescribes.payloadItems_eq hexact hstandard hconstructed
  refine ⟨hitems, hdescribes.contextForPayload_eq hommers hwithdrawals, ?_⟩
  intro consensus hverified tx hmem
  obtain ⟨a, hverify⟩ := (consensus.verifyAuthorizations_eq_ok_iff.mp hverified).2 tx hmem
  have hsender := (verify_eq_ok_iff_authorized.mp hverify).2
  rw [hitems, ← hsender]
  exact List.mem_map.mpr ⟨_, hmem, recoverItem_eq_ok hverify⟩

/-! ## A payload that keeps its block -/

namespace Sample

open Primitives.Sample

instance : EngineHeader Header where
  parentHash _ := parentHeader.hash
  parentBeaconBlockRoot _ := some (FixedBytes.ofNat 32 6)
  extraData _ := builderConfig.extraData
  slotNumber _ := none

/-- The fields of a payload that are read here, under their names. -/
structure PayloadFields where
  transactions : List (List UInt8)
  parentHash : B256
  withdrawals : Option (List Withdrawal)
  extraData : Bytes

instance : ExecutionPayload PayloadFields where
  transactions := PayloadFields.transactions
  parentHash := PayloadFields.parentHash
  withdrawals := PayloadFields.withdrawals
  extraData := PayloadFields.extraData
  slotNumber _ := none

instance : FromBlockUncheckedWithExtras PayloadFields
    (Header × BlockBody (CosmosEnvelope Eth) Header) where
  fromBlockUncheckedWithExtras _ block _ :=
    ({ transactions := block.2.transactions.map encode2718
       parentHash := EngineHeader.parentHash block.1
       withdrawals := block.2.withdrawals
       extraData := EngineHeader.extraData block.1 },
      { cancun := (EngineHeader.parentBeaconBlockRoot block.1).map fun root =>
          ⟨root, block.2.blobVersionedHashesIter⟩
        prague := none })

theorem payloadFields_documented :
    FromBlockUncheckedWithExtras.Documented PayloadFields (CosmosEnvelope Eth) Header where
  transactions _ _ _ _ := rfl
  parentHash _ _ _ _ := rfl
  extraData _ _ _ _ := rfl
  withdrawals _ _ _ _ _ hsome := hsome
  cancun _ _ _ _ := rfl

theorem eth_exactForm : ExactForm Eth := by
  intro t
  cases t with
  | transfer => decide +kernel
  | blob => decide +kernel

theorem eth_knowsStandardTypes : KnowsStandardTypes Eth := by
  intro value buf rest t hnone hread
  have hother : value ≠ 3 := by
    rintro rfl
    exact absurd hnone (by decide)
  have hfail : typedDecode (α := Eth) value buf = (.error (.unexpectedType value), buf) :=
    congrFun (if_neg hother) buf
  rw [hfail] at hread
  exact absurd (congrArg Prod.fst hread) (by simp)

def block : RecoveredBlock (CosmosEnvelope Eth) Header where
  header := ⟨30000000, FixedBytes.ofNat 32 3⟩
  hash := FixedBytes.ofNat 32 4
  body :=
    { transactions := [.ethereum .transfer, .cosmos signed], ommers := [], withdrawals := some [] }
  senders := [Legacy.sender, operation.sender]

end Sample

open Sample Primitives.Sample in
theorem sample_block_is_executed_from_its_payload :
    payloadItems (blockToPayload block none : EngineData PayloadFields).executionData =
      [.ok ⟨CosmosEnvelope.ethereum Eth.transfer, Legacy.sender⟩,
        .ok ⟨CosmosEnvelope.cosmos (T := Eth) signed, operation.sender⟩] := by
  have hexecuted := payload_is_executed_as_its_block Eth Header PayloadFields Unit Unit
    eth_exactForm eth_knowsStandardTypes payloadFields_documented block ?_ rfl rfl
    (blockToPayload block none) (Or.inl ⟨none, rfl⟩)
  · have hverify : signed.verify = .ok operation.sender :=
      verify_eq_ok_iff_authorized.mpr ⟨operation_authorized, rfl⟩
    have hitem : recoverItem (CosmosEnvelope.cosmos (T := Eth) signed) =
        .ok ⟨.cosmos signed, operation.sender⟩ := recoverItem_eq_ok hverify
    exact hexecuted.1.trans (congrArg (fun item => [_, item]) hitem)
  · intro tx hmem
    obtain rfl : tx = signed := by simpa [block] using hmem
    exact .new new_signed

end RethCosmos.Payload
