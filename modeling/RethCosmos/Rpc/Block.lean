import RethCosmos.Primitives.BlockBody
import RethCosmos.Primitives.EnvelopeJson
import RethCosmos.Upstream.RpcBlock

/-!
# Blocks from RPC

A node that follows another one over RPC reads its blocks from JSON. The transactions it
gets are those of the block, also of the Cosmos type.
-/

namespace RethCosmos.Rpc

open Encoding Encoding.JsonObject Rust Upstream Primitives CosmosAuth
open Crypto (Suite)

variable {T V H : Type} [HexForms V]

/-- The reader of a transaction of RPC, whose own members but the sender are not used. -/
def readTransaction {α : Type} [TransactionJson α V] (members : Members V) :
    Except String (RpcTransaction α) := do
  let signer ← field "from" (readFixed 20) members
  let tx ← TransactionJson.ofMembers (members.filter fun m => m.1 ∉ ownFields)
  return ⟨⟨tx, signer⟩⟩

/-- `rpc_to_primitive_block`. -/
def rpcToPrimitiveBlock (block : RpcBlock (RpcTransaction (CosmosEnvelope T)) H) :
    H × BlockBody (CosmosEnvelope T) H :=
  mapTransactions (fun tx => tx.inner.tx) block.intoConsensus

/-- An object that reports a transaction: its members and some of those of RPC, each once and in
any order, with the sender among them. -/
structure Reports {α : Type} [TransactionJson α V] (tx : RecoveredTx α) (members : Members V) :
    Prop where
  exists_perm : ∃ extra : Members V, members.Perm (TransactionJson.toMembers tx.tx ++ extra) ∧
    ∀ m ∈ extra, m.1 ∈ rpcFields
  nodup : (members.map Prod.fst).Nodup
  sender : ("from", writeFixed tx.signer) ∈ members

/-- None of the members of a Cosmos transaction is taken for one of RPC. -/
theorem not_mem_rpcFields : ∀ name ∈ CosmosSigned.Rpc.fieldNames, name ∉ rpcFields := by decide

omit [HexForms V] in
/-- What is passed on holds the members of the transaction and others of RPC. -/
theorem exists_perm_filter {members written extra : Members V}
    (hperm : members.Perm (written ++ extra)) (hextra : ∀ m ∈ extra, m.1 ∈ rpcFields)
    (hown : ∀ m ∈ written, m.1 ∉ ownFields) :
    ∃ rest : Members V, (members.filter fun m => m.1 ∉ ownFields).Perm (written ++ rest) ∧
      ∀ m ∈ rest, m.1 ∈ rpcFields := by
  refine ⟨extra.filter fun m => m.1 ∉ ownFields, ?_, ?_⟩
  · -- the filter leaves the written members alone and thins out the others
    have hfiltered := hperm.filter fun m => decide (m.1 ∉ ownFields)
    have hwritten : written.filter (fun m => decide (m.1 ∉ ownFields)) = written :=
      List.filter_eq_self.mpr fun m hm => decide_eq_true (hown m hm)
    rwa [List.filter_append, hwritten] at hfiltered
  · intro m hm
    exact hextra m (List.mem_filter.mp hm).1

section

variable [Suite] [TransactionJson T V]

/-- A transaction that is reported is read. -/
theorem readTransaction_of_reports (hlossless : HexForms.Lossless V)
    (hdoc : TransactionJson.Documented T V) {tx : RecoveredTx (CosmosEnvelope T)}
    {members : Members V} (hconstructed : WellConstructed tx.tx) (hreports : Reports tx members) :
    readTransaction members = .ok ⟨tx⟩ := by
  obtain ⟨⟨extra, hperm, hextra⟩, hnodup, hsender⟩ := hreports
  have hsigner : field "from" (readFixed 20) members = .ok tx.signer :=
    (has_of_nodup hnodup hsender).field_eq (hlossless.readFixed_writeFixed _)
  have hread : TransactionJson.ofMembers (members.filter fun m => m.1 ∉ ownFields) =
      .ok tx.tx := by
    obtain ⟨tx, signer⟩ := tx
    cases tx with
    | ethereum t =>
        obtain ⟨rest, hrest, hfields⟩ := exists_perm_filter hperm hextra (hdoc.own t)
        -- the upstream reader may look at members of RPC, so they have to be distinct
        have hdistinct : ((members.filter fun m => m.1 ∉ ownFields).map Prod.fst).Nodup :=
          hnodup.sublist (List.filter_sublist.map _)
        exact CosmosEnvelope.ofMembers_eq_ethereum_iff.mpr
          (hdoc.ofMembers_toMembers t _ rest hrest hdistinct hfields)
    | cosmos tx =>
        -- no member of a Cosmos transaction is filtered out, and none of the rest is taken for one
        have hown : ∀ m ∈ (tx.toJson : Members V), m.1 ∉ ownFields := fun m hm hmem =>
          not_mem_rpcFields _ (CosmosSigned.Rpc.mem_fieldNames hm) (List.mem_append_left _ hmem)
        obtain ⟨rest, hrest, hfields⟩ := exists_perm_filter hperm hextra hown
        have hother : ∀ m ∈ rest, m.1 ∉ CosmosSigned.Rpc.fieldNames := fun m hm hname =>
          not_mem_rpcFields _ hname (hfields m hm)
        apply (CosmosEnvelope.ofMembers_eq_cosmos_iff hdoc).mpr
        exact CosmosSigned.ofJson_eq_ok_iff.mpr
          ⟨_, CosmosSigned.Rpc.ofMembers_eq_ok hlossless hrest hother,
            CosmosSigned.deserialize_serialize (Constructed.canonical hconstructed)⟩
  simp only [readTransaction, hsigner, hread, ok_bind, pure_eq_ok]

end

/-- The envelope reads from JSON exactly what one of its two forms reads, and never has to
choose. So the block that is made of the JSON of a block has its transactions in order, of
either kind, whatever RPC puts around their members and in which order. -/
theorem blocks_are_read_back_from_rpc (T V H : Type) [Suite] [HexForms V] [TransactionJson T V]
    (hlossless : HexForms.Lossless V) (hdoc : TransactionJson.Documented T V) :
    (∀ (members : Members V) (t : T),
      TransactionJson.ofMembers members = .ok (CosmosEnvelope.ethereum t) ↔
        TransactionJson.ofMembers members = .ok t) ∧
    (∀ (members : Members V) (tx : CosmosSigned),
      TransactionJson.ofMembers members = .ok (CosmosEnvelope.cosmos (T := T) tx) ↔
        CosmosSigned.ofJson members = .ok tx) ∧
    ∀ (header : H) (recovered : List (RecoveredTx (CosmosEnvelope T)))
      (withdrawals : Option (List Withdrawal)) (uncles : List B256) (objects : List (Members V)),
      (∀ tx ∈ recovered, WellConstructed tx.tx) → List.Forall₂ Reports recovered objects →
        ∃ txs, objects.mapM readTransaction = .ok txs ∧
          txs.map RpcTransaction.inner = recovered ∧
          rpcToPrimitiveBlock ⟨header, uncles, .full txs, withdrawals⟩ =
            (header, ⟨recovered.map RecoveredTx.tx, [], withdrawals⟩) := by
  refine ⟨?_, ?_, ?_⟩
  · intro members t
    exact CosmosEnvelope.ofMembers_eq_ethereum_iff
  · intro members tx
    exact CosmosEnvelope.ofMembers_eq_cosmos_iff hdoc
  · intro header recovered withdrawals uncles objects hconstructed hreports
    have hread : List.Forall₂ (fun members (tx : RpcTransaction (CosmosEnvelope T)) =>
        readTransaction members = .ok tx) objects (recovered.map RpcTransaction.mk) := by
      rw [List.forall₂_map_right_iff]
      apply List.Forall₂.flip
      apply ((List.forall₂_and_left _ _).mpr ⟨hconstructed, hreports⟩).imp
      rintro tx members ⟨htx, hmembers⟩
      exact readTransaction_of_reports hlossless hdoc htx hmembers
    refine ⟨_, mapM_eq_ok_iff.mpr hread, ?_, ?_⟩
    · rw [List.map_map]
      exact List.map_id' _
    · simp only [rpcToPrimitiveBlock, mapTransactions, RpcBlock.intoConsensus,
        BlockTransactions.intoTransactionsVec, List.map_map]
      rfl

/-! ## A block of both kinds -/

namespace Sample

open Primitives.Sample

/-- Only the type is read, which there is one of. -/
scoped instance legacyJson : TransactionJson Legacy Json where
  toMembers _ := [("type", writeQuantity 0), ("hash", writeFixed (txHash Legacy.transfer))]
  ofMembers members := do
    let ty ← field "type" readQuantity members
    if ty = 0 then return .transfer else .error "unknown type"

theorem legacyJson_documented : TransactionJson.Documented Legacy Json where
  ofMembers_toMembers t members extra hperm hnodup _ := by
    cases t
    have hmem : ("type", writeQuantity 0) ∈ members :=
      hperm.mem_iff.mpr (List.mem_append_left _ List.mem_cons_self)
    have htype := (has_of_nodup hnodup hmem).field_eq (hexForms_lossless.quantity 0)
    simp only [TransactionJson.ofMembers, htype, ok_bind, if_true]
    rfl
  own t m hm := by
    cases t
    rcases List.mem_pair.mp hm with rfl | rfl
    · decide
    · decide
  standard members t value hread hhas := by
    simp only [TransactionJson.ofMembers, bind_eq_ok_iff] at hread
    obtain ⟨ty, htype, hzero⟩ := hread
    obtain ⟨value', hhas', hvalue⟩ := field_eq_ok_iff.mp htype
    have hsame : value' = value := by
      have hone := hhas'.symm.trans hhas
      simpa using hone
    split at hzero
    next hty => exact ⟨.legacy, by rw [← hsame, hvalue, hty]; rfl⟩
    next => simp at hzero

/-- What RPC adds to both. -/
def sampleFields (signer : Address) : Members Json :=
  [("blockNumber", writeQuantity 1), ("from", writeFixed signer)]

theorem reports {tx : CosmosEnvelope Legacy} {signer : Address}
    (hnodup : ((TransactionJson.toMembers tx ++ sampleFields signer : Members Json).map
      Prod.fst).Nodup) :
    Reports ⟨tx, signer⟩ (TransactionJson.toMembers tx ++ sampleFields signer : Members Json) where
  exists_perm := by
    refine ⟨_, List.Perm.refl _, ?_⟩
    intro m hm
    rcases List.mem_pair.mp hm with rfl | rfl
    · exact (by decide : "blockNumber" ∈ rpcFields)
    · exact (by decide : "from" ∈ rpcFields)
  nodup := hnodup
  sender := List.mem_append_right _ (List.mem_cons_of_mem _ List.mem_cons_self)

end Sample

open Sample Primitives.Sample in
theorem sample_block_is_read_back_from_rpc :
    let legacy : CosmosEnvelope Legacy := .ethereum .transfer
    let cosmos : CosmosEnvelope Legacy := .cosmos signed
    let objects : List (Members Json) :=
      [TransactionJson.toMembers legacy ++ sampleFields Legacy.sender,
        TransactionJson.toMembers cosmos ++ sampleFields operation.sender]
    ∃ txs, objects.mapM readTransaction = .ok txs ∧
      rpcToPrimitiveBlock ⟨(), [], .full txs, none⟩ = ((), ⟨[legacy, cosmos], [], none⟩) := by
  intro legacy cosmos objects
  have hconstructed : ∀ tx ∈ [(⟨legacy, Legacy.sender⟩ : RecoveredTx (CosmosEnvelope Legacy)),
      ⟨cosmos, operation.sender⟩], WellConstructed tx.tx := by
    intro tx hmem
    rcases List.mem_pair.mp hmem with rfl | rfl
    · trivial
    · exact Constructed.new new_signed
  have hlegacy := @reports legacy Legacy.sender (by decide)
  have hcosmos := @reports cosmos operation.sender (by decide)
  obtain ⟨_, _, hblocks⟩ := blocks_are_read_back_from_rpc Legacy Json Unit hexForms_lossless
    legacyJson_documented
  obtain ⟨txs, hread, _, hblock⟩ :=
    hblocks () _ none [] objects hconstructed (.cons hlegacy (.cons hcosmos .nil))
  exact ⟨txs, hread, hblock⟩

end RethCosmos.Rpc
