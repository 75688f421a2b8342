import RethCosmos.Payload.Build

/-!
# Blobs of a build

The blobs are counted when a transaction is executed, and its sidecar, which was fetched
before, is kept at the same moment. All sidecars are of the variant of the fork, so that
none is dropped and the envelope of the fork takes them all.
-/

namespace RethCosmos.Payload

open Encoding Rust Upstream Primitives CosmosAuth

variable {T ε : Type} [TransactionAccessors T] {env : Env} {totals : Totals}

namespace Executed

/-- None, if it is not a blob transaction. -/
def blobCount (entry : Executed T ε) : Nat := entry.turn.txBlobCount.getD 0

def hasBlobs (entry : Executed T ε) : Bool := entry.turn.txBlobCount.isSome

/-- What the blob store has for the transaction. -/
def storedBlob [TxHashRef T] (entry : Executed T ε) :
    Except ε (Option BlobTransactionSidecarVariant) :=
  entry.turn.getBlob (txHash entry.turn.tx.tx)

end Executed

section

variable [TxHashRef T]

/-- The count and the sidecars are those of the blob transactions in the block, in order. -/
structure AlignedBlobs (env : Env) (totals : Totals) (executed : List (Executed T ε)) : Prop where
  count : totals.blockBlobCount = (executed.map Executed.blobCount).sum
  limit : totals.blockBlobCount ≤ env.maxBlobCount
  stored : (executed.filter Executed.hasBlobs).map Executed.storedBlob =
    totals.blobSidecars.toList.map fun sidecar => .ok (some sidecar)
  uniform : totals.blobSidecars.Uniform env.isOsaka

theorem AlignedBlobs.start (env : Env) :
    AlignedBlobs env .zero ([] : List (Executed T ε)) where
  count := rfl
  limit := Nat.zero_le _
  stored := rfl
  uniform := trivial

variable [Encodable2718 T] {executed : List (Executed T ε)} {entry : Executed T ε}

/-- A transaction without blobs touches neither. -/
theorem AlignedBlobs.push_other (h : AlignedBlobs env totals executed)
    (hnone : entry.turn.txBlobCount = none) (hsidecar : entry.blobTxSidecar = none) :
    AlignedBlobs env (totals.add entry) (executed ++ [entry]) where
  count := by
    simp only [Totals.add, hnone, List.map_append, List.sum_append, List.map_singleton,
      List.sum_singleton, Executed.blobCount, Option.getD_none, Nat.add_zero]
    exact h.count
  limit := by
    simp only [Totals.add, hnone]
    exact h.limit
  stored := by
    simp only [Totals.add, hsidecar, List.filter_append, List.filter_singleton,
      Executed.hasBlobs, hnone, Option.isSome_none, cond_false, List.append_nil]
    exact h.stored
  uniform := by
    simp only [Totals.add, hsidecar]
    exact h.uniform

theorem AlignedBlobs.push_blobs (h : AlignedBlobs env totals executed) {n : Nat}
    {sidecar : BlobTransactionSidecarVariant} (hsome : entry.turn.txBlobCount = some n)
    (hsidecar : entry.blobTxSidecar = some sidecar)
    (hlimit : totals.blockBlobCount + n ≤ env.maxBlobCount)
    (hstored : entry.storedBlob = .ok (some sidecar))
    (hvariant : sidecar.isEip7594 = env.isOsaka) :
    AlignedBlobs env (totals.add entry) (executed ++ [entry]) := by
  obtain ⟨huniform, hpush⟩ := h.uniform.push hvariant
  constructor
  · simp only [Totals.add, hsome, List.map_append, List.sum_append, List.map_singleton,
      List.sum_singleton, Executed.blobCount, Option.getD_some]
    rw [h.count]
  · simp only [Totals.add, hsome]
    exact hlimit
  · simp only [Totals.add, hsidecar, List.filter_append, List.filter_singleton,
      Executed.hasBlobs, hsome, Option.isSome_some, cond_true, List.map_append, hpush,
      List.map_singleton, hstored]
    rw [← h.stored]
  · simp only [Totals.add, hsidecar]
    exact huniform

variable [RlpBlockSize]

theorem AlignedBlobs.push (h : AlignedBlobs env totals executed)
    (hadmitted : Admitted env totals entry) :
    AlignedBlobs env (totals.add entry) (executed ++ [entry]) := by
  have hchecked := hadmitted.checked
  cases hcount : entry.turn.txBlobCount with
  | none => exact h.push_other hcount (hchecked.no_sidecar hcount)
  | some n =>
      obtain ⟨sidecar, hsidecar, hstored, hvariant⟩ := hchecked.sidecar n hcount
      exact h.push_blobs hcount hsidecar (hchecked.blobs n hcount) hstored hvariant

theorem alignedBlobs {bestTxs : List (Turn T ε)} {state : State T ε}
    (hrun : executeBest env bestTxs = .ok state) :
    AlignedBlobs env state.totals state.executed := by
  refine run_invariant (I := AlignedBlobs env) (AlignedBlobs.start env) ?_ hrun
  intro totals executed entry haligned hadmitted _
  exact haligned.push hadmitted

end

/-! ## Limits -/

theorem maxBlobCount_le {protocolMax : Nat} (hprotocol : 1 ≤ protocolMax)
    (maxBlobsPerBlock : Option Nat) : maxBlobCount maxBlobsPerBlock protocolMax ≤ protocolMax := by
  cases maxBlobsPerBlock with
  | none => exact le_rfl
  | some userLimit => exact max_le (Nat.min_le_right _ _) hprotocol

/-- When the loop ends, the blobs are counted and the sidecars kept of exactly the transactions
that were executed, within the limit and in the variant of the fork. The payload converts
to the envelopes of its fork, with the blobs of all these sidecars. -/
theorem sidecars_follow_the_built_block (T H V ε : Type) [TransactionAccessors T] [TxHashRef T]
    [Encodable2718 T] [RlpBlockSize] [RlpEncodable H] [BlockHeader H]
    [FromBlockUnchecked V (H × BlockBody (CosmosEnvelope T) H)] :
    (∀ (env : Env) (bestTxs : List (Turn T ε)) (state : State T ε),
      executeBest env bestTxs = .ok state →
        (state.executed.map Executed.turn).Sublist bestTxs ∧
        (∀ entry ∈ state.executed, entry.turn.execution = .ok entry.gasOutput) ∧
        AlignedBlobs env state.totals state.executed ∧
        ∀ sidecar ∈ state.totals.blobSidecars.toList, sidecar.isEip7594 = env.isOsaka) ∧
    (∀ (maxBlobsPerBlock : Option Nat) (protocolMax : Nat), 1 ≤ protocolMax →
      maxBlobCount maxBlobsPerBlock protocolMax ≤ protocolMax) ∧
    (∀ (evmConfig : ConfigureEvm (CosmosEnvelope T) H ε) (client : Client ε)
      (builderConfig : EthereumBuilderConfig) (args : BuildArguments T H ε)
      (bestTxs : BestTransactionsAttributes → List (Turn T ε)) (payload : CosmosBuiltPayload T H),
      defaultEthereumPayload evmConfig client builderConfig args bestTxs = .ok (.better payload) →
        ∃ builder state outcome, SetUp evmConfig client builderConfig args builder ∧
          executeBest (buildEnv client.chainSpec builder builderConfig args.config.attributes)
            (bestTxs (bestTransactionsAttributes builder)) = .ok state ∧
          builder.finish (state.executed.map fun entry => entry.turn.tx)
            (knownStateRoot builderConfig args) = .ok outcome ∧ payload.block = outcome.block ∧
          let isOsaka :=
            client.chainSpec.isOsakaActiveAtTimestamp args.config.attributes.timestamp
          let blobs := state.totals.blobSidecars.toList.flatMap BlobTransactionSidecarVariant.blobs
          (isOsaka = true → ∃ envelope : ExecutionPayloadEnvelopeV5 V,
            payload.tryIntoV5 = .ok envelope ∧ envelope.blobsBundle.blobs = blobs) ∧
          (isOsaka = false →
            (∃ envelope : ExecutionPayloadEnvelopeV3 V,
              payload.tryIntoV3 = .ok envelope ∧ envelope.blobsBundle.blobs = blobs) ∧
            ∃ envelope : ExecutionPayloadEnvelopeV4 V,
              payload.tryIntoV4 = .ok envelope ∧
                envelope.envelopeInner.blobsBundle.blobs = blobs)) := by
  refine ⟨?_, ?_, ?_⟩
  · intro env bestTxs state hrun
    have haligned := alignedBlobs hrun
    refine ⟨executed_sublist hrun, ?_, haligned, haligned.uniform.isEip7594⟩
    intro entry hmem
    obtain ⟨totals, hadmitted⟩ := admitted_of_mem hrun entry hmem
    exact hadmitted.execution
  · intro maxBlobsPerBlock protocolMax hprotocol
    exact maxBlobCount_le hprotocol maxBlobsPerBlock
  · intro evmConfig client builderConfig args bestTxs payload hbuilt
    obtain ⟨builder, state, outcome, hassembles, rfl⟩ := run_of_better hbuilt
    refine ⟨builder, state, outcome, hassembles.setUp, hassembles.run, hassembles.finish, rfl, ?_⟩
    have huniform := (alignedBlobs hassembles.run).uniform
    intro isOsaka blobs
    constructor
    · intro hosaka
      apply CosmosBuiltPayload.tryInto_from_osaka
      rw [← hosaka]
      exact huniform
    · intro hosaka
      apply CosmosBuiltPayload.tryInto_before_osaka
      rw [← hosaka]
      exact huniform

namespace Sample

/-- An execution payload that keeps the block as it is. -/
scoped instance wholeBlock (H T : Type) :
    FromBlockUnchecked (B256 × H × BlockBody (CosmosEnvelope T) H)
      (H × BlockBody (CosmosEnvelope T) H) where
  fromBlockUnchecked hash block := (hash, block)

end Sample

open Sample Primitives.Sample in
/-- The blob of the sample stream is in the envelope of its payload. -/
theorem sample_blob_is_in_the_envelope :
    ∃ payload, defaultEthereumPayload evmConfig (client false) builderConfig buildArguments
        (fun _ => stream) = .ok (.better payload) ∧
      ∃ envelope : ExecutionPayloadEnvelopeV3
          (B256 × Header × BlockBody (CosmosEnvelope Eth) Header),
        payload.tryIntoV3 = .ok envelope ∧
          envelope.blobsBundle.blobs = [FixedBytes.ofNat 131072 0] := by
  refine ⟨_, rfl, ?_⟩
  obtain ⟨_, _, hpayload⟩ := sidecars_follow_the_built_block Eth Header
    (B256 × Header × BlockBody (CosmosEnvelope Eth) Header) Unit
  obtain ⟨builder, state, outcome, hsetUp, hrun, _, _, _, hbefore⟩ := hpayload evmConfig
    (client false) builderConfig buildArguments (fun _ => stream) _ rfl
  obtain ⟨⟨envelope, henvelope, hblobs⟩, _⟩ := hbefore rfl
  refine ⟨envelope, henvelope, hblobs.trans ?_⟩
  obtain rfl : blockBuilder = builder := Except.ok.inj hsetUp.nextBlock
  have hstate : Outcome.ok state = Outcome.ok _ := hrun.symm.trans rfl
  obtain rfl := Outcome.ok.inj hstate
  rfl

end RethCosmos.Payload
