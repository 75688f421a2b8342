import RethCosmos.Payload.Engine
import RethCosmos.Upstream.Environment

/-!
# Environments of Engine payloads

The node makes the environment of a payload on its own, next to the one that upstream makes
of a header. For the payload of a block the two are the same, if the block is one that the
Engine API is for.
-/

namespace RethCosmos.Payload

open Encoding Rust Upstream Primitives CosmosAuth

variable {T H V S : Type}

/-- The configuration, over that of Ethereum. -/
structure CosmosEvmConfig (H S : Type) where
  ethereum : EthEvmConfig H S

namespace CosmosEvmConfig

variable (config : CosmosEvmConfig H S)

def chainSpec : EvmChainSpec S := config.ethereum.chainSpec

def evmEnv (header : H) : EvmEnv S := config.ethereum.evmEnv header

variable [SpecId S] [EnvPayload V]

def evmEnvForPayload (payload : EngineData V) : EvmEnv S :=
  let timestamp := EnvPayload.timestamp payload.payload
  let blockNumber := EnvPayload.blockNumber payload.payload
  let blobParams := config.chainSpec.blobParamsAtTimestamp timestamp
  let spec := config.chainSpec.revmSpecByTimestampAndBlockNumber timestamp blockNumber
  { cfgEnv :=
      { chainId := config.chainSpec.chainId
        spec
        maxBlobsPerTx := blobParams.map EvmBlobParams.maxBlobsPerTx
        txGasLimitCap :=
          if config.chainSpec.isOsakaActiveAtTimestamp timestamp then some maxTxGasLimitOsaka
          else none }
    blockEnv :=
      { number := blockNumber.setWidth 256
        beneficiary := EnvPayload.feeRecipient payload.payload
        timestamp := timestamp.setWidth 256
        difficulty :=
          if SpecId.merge ≤ spec then 0
          else fromBeSlice (EnvPayload.prevRandao payload.payload).data
        prevrandao :=
          if SpecId.merge ≤ spec then some (EnvPayload.prevRandao payload.payload) else none
        gasLimit := EnvPayload.gasLimit payload.payload
        basefee := EnvPayload.saturatedBaseFeePerGas payload.payload
        blobExcessGasAndPrice :=
          blobExcessGasAndPrice (EnvPayload.excessBlobGas payload.payload) blobParams
        slotNum := (ExecutionPayload.slotNumber payload.payload).getD 0 } }

end CosmosEvmConfig

/-! ## Blocks -/

/-- The fields of Engine data that an environment is made of, as a block has them. -/
structure DescribesEnv [EnvHeader H] [EnvPayload V] (data : EngineData V)
    (block : RecoveredBlock (CosmosEnvelope T) H) : Prop where
  blockNumber : EnvPayload.blockNumber data.payload = EnvHeader.number block.header
  timestamp : EnvPayload.timestamp data.payload = EnvHeader.timestamp block.header
  feeRecipient : EnvPayload.feeRecipient data.payload = EnvHeader.beneficiary block.header
  prevRandao : EnvPayload.prevRandao data.payload = EnvHeader.mixHash block.header
  gasLimit : EnvPayload.gasLimit data.payload = EnvHeader.gasLimit block.header
  baseFeePerGas : EnvPayload.baseFeePerGas data.payload =
    ((EnvHeader.baseFeePerGas block.header).getD 0).setWidth 256
  excessBlobGas : EnvPayload.excessBlobGas data.payload =
    (EngineHeader.parentBeaconBlockRoot block.header).map fun _ =>
      (EnvHeader.excessBlobGas block.header).getD 0

section Describes

variable [EnvHeader H] [EnvPayload V]
  [FromBlockUncheckedWithExtras V (H × BlockBody (CosmosEnvelope T) H)]
  (hdoc : FromBlockUncheckedWithExtras.EnvDocumented V (CosmosEnvelope T) H)
include hdoc

theorem describesEnv_blockToPayload (block : RecoveredBlock (CosmosEnvelope T) H)
    (bal : Option Bytes) : DescribesEnv (blockToPayload block bal : EngineData V) block where
  blockNumber := hdoc.blockNumber block.hash block.header block.body bal
  timestamp := hdoc.timestamp block.hash block.header block.body bal
  feeRecipient := hdoc.feeRecipient block.hash block.header block.body bal
  prevRandao := hdoc.prevRandao block.hash block.header block.body bal
  gasLimit := hdoc.gasLimit block.hash block.header block.body bal
  baseFeePerGas := hdoc.baseFeePerGas block.hash block.header block.body bal
  excessBlobGas := hdoc.excessBlobGas block.hash block.header block.body bal

/-- The sidecar of the builder's payload is its own, and its payload is that of the block. -/
theorem describesEnv_intoExecutionData [TransactionAccessors T]
    (payload : CosmosBuiltPayload T H) :
    DescribesEnv (payload.intoExecutionData : EngineData V) payload.block := by
  have hblock := describesEnv_blockToPayload (V := V) hdoc payload.block payload.blockAccessList
  exact ⟨hblock.blockNumber, hblock.timestamp, hblock.feeRecipient, hblock.prevRandao,
    hblock.gasLimit, hblock.baseFeePerGas, hblock.excessBlobGas⟩

end Describes

/-! ## Prices of blobs -/

theorem blobExcessGasAndPrice_none (excessBlobGas : Option U64) :
    blobExcessGasAndPrice excessBlobGas none = none := by
  cases excessBlobGas <;> rfl

/-- A header has a price for blobs exactly if it has an excess, a payload exactly if its block
has a beacon root. -/
theorem blobExcessGasAndPrice_eq_iff {β : Type} (root : Option β) (excessBlobGas : Option U64)
    (params : Option EvmBlobParams) :
    blobExcessGasAndPrice (root.map fun _ => excessBlobGas.getD 0) params =
        blobExcessGasAndPrice excessBlobGas params ↔
      (params.isSome = true → (root.isSome = true ↔ excessBlobGas.isSome = true)) := by
  cases params with
  | none => simp [blobExcessGasAndPrice_none]
  | some params =>
      cases root with
      | none =>
          cases excessBlobGas with
          | none => simp
          | some excess => simp [blobExcessGasAndPrice]
      | some root =>
          cases excessBlobGas with
          | none => simp [blobExcessGasAndPrice]
          | some excess => simp [blobExcessGasAndPrice]

/-! ## Environments -/

section Environment

variable [SpecId S] [EnvHeader H] [EnvPayload V] {config : CosmosEvmConfig H S}
  {data : EngineData V} {block : RecoveredBlock (CosmosEnvelope T) H}

/-- The rules are the same for the payload and for the header. -/
theorem DescribesEnv.cfgEnv_eq (h : DescribesEnv data block)
    (hethereum : config.ethereum.Documented) :
    (config.evmEnvForPayload data).cfgEnv = (config.evmEnv block.header).cfgEnv := by
  apply CfgEnv.ext
  · exact (hethereum.chainId block.header).symm
  · apply Eq.trans _ (hethereum.spec block.header).symm
    rw [← h.timestamp, ← h.blockNumber]
    rfl
  · apply Eq.trans _ (hethereum.maxBlobsPerTx block.header).symm
    rw [← h.timestamp]
    rfl
  · apply Eq.trans _ (hethereum.txGasLimitCap block.header).symm
    rw [← h.timestamp]
    rfl

/-- Before the merge a header has a difficulty, of which a payload knows nothing. -/
theorem DescribesEnv.difficulty_eq_iff (h : DescribesEnv data block)
    (hethereum : config.ethereum.Documented) :
    (config.evmEnvForPayload data).blockEnv.difficulty =
        (config.evmEnv block.header).blockEnv.difficulty ↔
      (SpecId.merge ≤ (config.evmEnv block.header).cfgEnv.spec ∨
        EnvHeader.difficulty block.header =
          fromBeSlice (EnvHeader.mixHash block.header).data) := by
  have hpayload : (config.evmEnvForPayload data).blockEnv.difficulty =
      if SpecId.merge ≤ (config.evmEnvForPayload data).cfgEnv.spec then 0
      else fromBeSlice (EnvPayload.prevRandao data.payload).data := rfl
  have hheader : (config.evmEnv block.header).blockEnv.difficulty =
      if SpecId.merge ≤ (config.evmEnv block.header).cfgEnv.spec then 0
      else EnvHeader.difficulty block.header := hethereum.difficulty block.header
  rw [hpayload, hheader, h.cfgEnv_eq hethereum, h.prevRandao]
  by_cases hmerge : SpecId.merge ≤ (config.evmEnv block.header).cfgEnv.spec
  · simp only [hmerge, if_true, true_or]
  · simp only [hmerge, if_false, false_or]
    exact eq_comm

theorem DescribesEnv.prevrandao_eq (h : DescribesEnv data block)
    (hethereum : config.ethereum.Documented) :
    (config.evmEnvForPayload data).blockEnv.prevrandao =
      (config.evmEnv block.header).blockEnv.prevrandao := by
  have hpayload : (config.evmEnvForPayload data).blockEnv.prevrandao =
      if SpecId.merge ≤ (config.evmEnvForPayload data).cfgEnv.spec then
        some (EnvPayload.prevRandao data.payload)
      else none := rfl
  rw [hpayload, h.cfgEnv_eq hethereum, h.prevRandao]
  exact (hethereum.prevrandao block.header).symm

theorem DescribesEnv.basefee_eq (h : DescribesEnv data block)
    (hethereum : config.ethereum.Documented) :
    (config.evmEnvForPayload data).blockEnv.basefee =
      (config.evmEnv block.header).blockEnv.basefee := by
  apply Eq.trans _ (hethereum.basefee block.header).symm
  have hpayload : (config.evmEnvForPayload data).blockEnv.basefee =
      saturatingTo 64 (EnvPayload.baseFeePerGas data.payload) := rfl
  rw [hpayload, h.baseFeePerGas]
  exact saturatingTo_widen (by decide) _

theorem DescribesEnv.blobExcessGasAndPrice_eq_iff (h : DescribesEnv data block)
    (hethereum : config.ethereum.Documented) :
    (config.evmEnvForPayload data).blockEnv.blobExcessGasAndPrice =
        (config.evmEnv block.header).blockEnv.blobExcessGasAndPrice ↔
      ((config.chainSpec.blobParamsAtTimestamp
          (EnvHeader.timestamp block.header)).isSome = true →
        ((EngineHeader.parentBeaconBlockRoot block.header).isSome = true ↔
          (EnvHeader.excessBlobGas block.header).isSome = true)) := by
  have hpayload : (config.evmEnvForPayload data).blockEnv.blobExcessGasAndPrice =
      blobExcessGasAndPrice (EnvPayload.excessBlobGas data.payload)
        (config.chainSpec.blobParamsAtTimestamp (EnvPayload.timestamp data.payload)) := rfl
  have hheader : (config.evmEnv block.header).blockEnv.blobExcessGasAndPrice =
      blobExcessGasAndPrice (EnvHeader.excessBlobGas block.header)
        (config.chainSpec.blobParamsAtTimestamp (EnvHeader.timestamp block.header)) :=
    hethereum.blobExcessGasAndPrice block.header
  rw [hpayload, hheader, h.excessBlobGas, h.timestamp]
  exact Payload.blobExcessGasAndPrice_eq_iff _ _ _

/-- The fields that every payload has from its block. -/
theorem DescribesEnv.fields_eq (h : DescribesEnv data block)
    (hethereum : config.ethereum.Documented) :
    (config.evmEnvForPayload data).blockEnv.number = (config.evmEnv block.header).blockEnv.number ∧
    (config.evmEnvForPayload data).blockEnv.beneficiary =
      (config.evmEnv block.header).blockEnv.beneficiary ∧
    (config.evmEnvForPayload data).blockEnv.timestamp =
      (config.evmEnv block.header).blockEnv.timestamp ∧
    (config.evmEnvForPayload data).blockEnv.gasLimit =
      (config.evmEnv block.header).blockEnv.gasLimit := by
  refine ⟨?_, ?_, ?_, ?_⟩
  · apply Eq.trans _ (hethereum.number block.header).symm
    rw [← h.blockNumber]
    rfl
  · exact h.feeRecipient.trans (hethereum.beneficiary block.header).symm
  · apply Eq.trans _ (hethereum.timestamp block.header).symm
    rw [← h.timestamp]
    rfl
  · exact h.gasLimit.trans (hethereum.gasLimit block.header).symm

end Environment

/-- The environment of the payload of a block is that of its header exactly if the header has no
difficulty but its mix hash, an excess of blob gas where it has a beacon root, and the slot
of the payload; a block of the beacon chain is such a block. -/
theorem payload_environment_is_that_of_its_block_iff (T H V S : Type) [SpecId S] [EnvHeader H]
    [EnvPayload V] [TransactionAccessors T]
    [FromBlockUncheckedWithExtras V (H × BlockBody (CosmosEnvelope T) H)]
    (hdoc : FromBlockUncheckedWithExtras.EnvDocumented V (CosmosEnvelope T) H)
    (config : CosmosEvmConfig H S) (hethereum : config.ethereum.Documented)
    (block : RecoveredBlock (CosmosEnvelope T) H) (data : EngineData V)
    (hdata : (∃ bal, data = blockToPayload block bal) ∨
      ∃ payload : CosmosBuiltPayload T H, payload.block = block ∧
        data = payload.intoExecutionData) :
    config.evmEnvForPayload data = config.evmEnv block.header ↔
      (SpecId.merge ≤ (config.evmEnv block.header).cfgEnv.spec ∨
        EnvHeader.difficulty block.header =
          fromBeSlice (EnvHeader.mixHash block.header).data) ∧
      ((config.chainSpec.blobParamsAtTimestamp
          (EnvHeader.timestamp block.header)).isSome = true →
        ((EngineHeader.parentBeaconBlockRoot block.header).isSome = true ↔
          (EnvHeader.excessBlobGas block.header).isSome = true)) ∧
      (ExecutionPayload.slotNumber data.payload).getD 0 =
        (EngineHeader.slotNumber block.header).getD 0 := by
  have h : DescribesEnv data block := by
    rcases hdata with ⟨bal, rfl⟩ | ⟨payload, rfl, rfl⟩
    · exact describesEnv_blockToPayload hdoc block bal
    · exact describesEnv_intoExecutionData hdoc payload
  -- each condition is the equality of one field, and the other fields agree in any case
  rw [← h.difficulty_eq_iff hethereum, ← h.blobExcessGasAndPrice_eq_iff hethereum]
  have hslot : (config.evmEnv block.header).blockEnv.slotNum =
    (EngineHeader.slotNumber block.header).getD 0 := hethereum.slotNum block.header
  rw [← hslot]
  obtain ⟨hnumber, hbeneficiary, htimestamp, hgasLimit⟩ := h.fields_eq hethereum
  constructor
  · intro heq
    rw [heq]
    exact ⟨rfl, rfl, congrArg (fun env => env.blockEnv.slotNum) heq⟩
  · rintro ⟨hdifficulty, hblobs, hslot⟩
    apply EvmEnv.ext (h.cfgEnv_eq hethereum)
    exact BlockEnv.ext hnumber hbeneficiary htimestamp hdifficulty (h.prevrandao_eq hethereum)
      hgasLimit (h.basefee_eq hethereum) hblobs hslot

/-! ## A chain after the merge -/

namespace Sample

open Primitives.Sample

/-- Specifications by their number, the merge being 15. -/
structure Spec where
  number : Nat
  deriving DecidableEq

instance : SpecId Spec where
  le spec spec' := spec.number ≤ spec'.number
  merge := ⟨15⟩
  decidableLE spec spec' := inferInstanceAs (Decidable (spec.number ≤ spec'.number))

instance : EnvHeader Header where
  number _ := 7
  timestamp _ := 1700000000
  beneficiary _ := Legacy.sender
  difficulty _ := 0
  mixHash _ := FixedBytes.ofNat 32 5
  gasLimit := Header.gasLimit
  baseFeePerGas _ := some 1000000000
  excessBlobGas _ := some 0

/-- The fields of a payload that environments are made of, next to those read for the context. -/
structure EnvFields extends PayloadFields where
  blockNumber : U64
  timestamp : U64
  feeRecipient : Address
  prevRandao : B256
  gasLimit : U64
  baseFeePerGas : U256
  excessBlobGas : Option U64

instance : EnvPayload EnvFields where
  transactions payload := payload.transactions
  parentHash payload := payload.parentHash
  withdrawals payload := payload.withdrawals
  extraData payload := payload.extraData
  slotNumber _ := none
  blockNumber := EnvFields.blockNumber
  timestamp := EnvFields.timestamp
  feeRecipient := EnvFields.feeRecipient
  prevRandao := EnvFields.prevRandao
  gasLimit := EnvFields.gasLimit
  baseFeePerGas := EnvFields.baseFeePerGas
  excessBlobGas := EnvFields.excessBlobGas

instance : FromBlockUncheckedWithExtras EnvFields
    (Header × BlockBody (CosmosEnvelope Eth) Header) where
  fromBlockUncheckedWithExtras hash block bal :=
    let (fields, sidecar) :=
      (fromBlockUncheckedWithExtras hash block bal : PayloadFields × ExecutionPayloadSidecar)
    ({ fields with
        blockNumber := EnvHeader.number block.1
        timestamp := EnvHeader.timestamp block.1
        feeRecipient := EnvHeader.beneficiary block.1
        prevRandao := EnvHeader.mixHash block.1
        gasLimit := EnvHeader.gasLimit block.1
        baseFeePerGas := ((EnvHeader.baseFeePerGas block.1).getD 0).setWidth 256
        excessBlobGas := (EngineHeader.parentBeaconBlockRoot block.1).map fun _ =>
          (EnvHeader.excessBlobGas block.1).getD 0 }, sidecar)

theorem envFields_documented :
    FromBlockUncheckedWithExtras.EnvDocumented EnvFields (CosmosEnvelope Eth) Header where
  blockNumber _ _ _ _ := rfl
  timestamp _ _ _ _ := rfl
  feeRecipient _ _ _ _ := rfl
  prevRandao _ _ _ _ := rfl
  gasLimit _ _ _ _ := rfl
  baseFeePerGas _ _ _ _ := rfl
  excessBlobGas _ _ _ _ := rfl

/-- Cancun is active, Osaka is not. -/
def evmChainSpec : EvmChainSpec Spec where
  chainId := 1
  revmSpecByTimestampAndBlockNumber _ _ := ⟨17⟩
  blobParamsAtTimestamp _ := some ⟨6, fun _ => 1⟩
  isOsakaActiveAtTimestamp _ := false

def cosmosEvmConfig : CosmosEvmConfig Header Spec where
  ethereum :=
    { chainSpec := evmChainSpec
      evmEnv header :=
        { cfgEnv := ⟨1, ⟨17⟩, some 6, none⟩
          blockEnv :=
            { number := 7, beneficiary := Legacy.sender, timestamp := 1700000000, difficulty := 0
              prevrandao := some (FixedBytes.ofNat 32 5), gasLimit := header.gasLimit
              basefee := 1000000000, blobExcessGasAndPrice := some ⟨0, 1⟩, slotNum := 0 } } }

theorem cosmosEvmConfig_documented : cosmosEvmConfig.ethereum.Documented where
  chainId _ := rfl
  spec _ := rfl
  maxBlobsPerTx _ := rfl
  txGasLimitCap _ := rfl
  number _ := rfl
  beneficiary _ := rfl
  timestamp _ := rfl
  difficulty _ := rfl
  prevrandao _ := rfl
  gasLimit _ := rfl
  basefee _ := rfl
  blobExcessGasAndPrice _ := rfl
  slotNum _ := rfl

end Sample

open Sample in
theorem sample_payload_has_the_environment_of_its_block :
    cosmosEvmConfig.evmEnvForPayload (blockToPayload block none : EngineData EnvFields) =
      cosmosEvmConfig.evmEnv block.header := by
  have hsame := payload_environment_is_that_of_its_block_iff Primitives.Sample.Eth Header EnvFields
    Spec envFields_documented cosmosEvmConfig cosmosEvmConfig_documented block
    (blockToPayload block none) (Or.inl ⟨none, rfl⟩)
  refine hsame.mpr ⟨Or.inl ?_, ?_, rfl⟩
  · have hle : 15 ≤ 17 := by decide
    exact hle
  · intro _
    exact iff_of_true rfl rfl

end RethCosmos.Payload
