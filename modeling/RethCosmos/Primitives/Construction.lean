import RethCosmos.Primitives.EnvelopeDecode
import RethCosmos.Primitives.Storage

/-!
# Where Cosmos transactions come from

The fields of a Cosmos transaction are private, so every value was returned by the
constructor, a decoder, the database or the JSON reader. All four keep the invariant that
the cached bytes and hash are those of the contents.
-/

namespace RethCosmos.Primitives

open Encoding Rust Upstream CosmosAuth
open Crypto (Suite)

variable [Suite]

/-- The values the program can hold, for an envelope of any upstream type. -/
inductive Constructed : CosmosSigned → Prop
  | new {operation : Operation} {publicKey signature : List UInt8} {tx : CosmosSigned}
      (hnew : CosmosSigned.new operation publicKey signature = .ok tx) : Constructed tx
  | typedDecode {T : Type} [Decodable2718 T] {ty : UInt8} {buf rest : List UInt8}
      {tx : CosmosSigned}
      (hread : Upstream.typedDecode ty buf = (.ok (CosmosEnvelope.cosmos (T := T) tx), rest)) :
      Constructed tx
  | fromTxCompact {T : Type} [FromTxCompact T TxType] {ty : CosmosTxType}
      {signature : Signature} {buf rest : List UInt8} {tx : CosmosSigned}
      (hread : Upstream.fromTxCompact buf ty signature =
        .ok (CosmosEnvelope.cosmos (T := T) tx, rest)) : Constructed tx
  | deserialize {read : Except CosmosSigned.DeserializeError CosmosSigned.Rpc}
      {tx : CosmosSigned} (hread : CosmosSigned.deserialize read = .ok tx) : Constructed tx

variable {T : Type}

/-- A type byte other than the Cosmos one never yields a Cosmos transaction. -/
theorem typedDecode_ethereum [Decodable2718 T] {ty : UInt8} (hty : ty ≠ txType)
    (buf : List UInt8) :
    typedDecode ty buf =
      (Decodable2718.typedDecode ty).map (CosmosEnvelope.ethereum (T := T)) buf := by
  simp only [typedDecode, CosmosEnvelope.typedDecode, hty, ne_eq, not_false_eq_true, if_true]

theorem fromTxCompact_ethereum [FromTxCompact T TxType] {ty : CosmosTxType}
    (hty : ty ≠ CosmosTxType.COSMOS) {buf rest : List UInt8} {signature : Signature}
    {tx : CosmosEnvelope T} (hread : fromTxCompact buf ty signature = .ok (tx, rest)) :
    ∃ t, tx = .ethereum t := by
  simp only [fromTxCompact, hty, ne_eq, not_false_eq_true, if_true, Outcome.bind_eq_ok_iff,
    Outcome.pure_eq_ok, Outcome.ok.injEq, Prod.mk.injEq] at hread
  obtain ⟨_, _, ⟨t, _⟩, _, rfl, _⟩ := hread
  exact ⟨t, rfl⟩

theorem CosmosSigned.new_of_deserialize {read : Except DeserializeError Rpc} {tx : CosmosSigned}
    (hread : deserialize read = .ok tx) :
    ∃ operation publicKey signature, new operation publicKey signature = .ok tx := by
  simp only [deserialize, throw_eq_error, error_bind, bind_eq_ok_iff, mapError_eq_ok_iff,
    ite_error_eq_ok_iff, pure_eq_ok, Except.ok.injEq] at hread
  obtain ⟨rpc, _, signed, hnew, _, rfl⟩ := hread
  exact ⟨rpc.operation, rpc.publicKey, rpc.cosmosSignature, hnew⟩

/-- Every path ends in the constructor. -/
theorem Constructed.exists_new {tx : CosmosSigned} (h : Constructed tx) :
    ∃ operation publicKey signature, CosmosSigned.new operation publicKey signature = .ok tx := by
  cases h with
  | new hnew => exact ⟨_, _, _, hnew⟩
  | @typedDecode T _ ty buf rest _ hread =>
      by_cases hty : ty = txType
      · subst hty
        obtain ⟨_, op, key, scalars, _, hwire, htx⟩ :=
          CosmosEnvelope.decodeWire_of_typedDecode hread
        obtain ⟨hlimits, _⟩ := decodeWire_eq_ok_iff.mp hwire
        -- what the decoder returns is what the constructor made of the parts
        rw [CosmosEnvelope.cosmos.inj htx]
        exact ⟨op, key.data, scalars.data,
          CosmosSigned.new_ofParts hlimits key.length_eq scalars.length_eq⟩
      · rw [typedDecode_ethereum hty, Cursor.map_eq_ok_iff] at hread
        obtain ⟨_, _, htx⟩ := hread
        simp at htx
  | @fromTxCompact T _ ty signature buf rest _ hread =>
      by_cases hty : ty = CosmosTxType.COSMOS
      · subst hty
        obtain ⟨op, publicKey, _, hnew, htx, _⟩ := fromTxCompact_sound hread
        rw [← CosmosEnvelope.cosmos.inj htx] at hnew
        exact ⟨_, _, _, hnew⟩
      · obtain ⟨t, htx⟩ := fromTxCompact_ethereum hty hread
        simp at htx
  | deserialize hread => exact CosmosSigned.new_of_deserialize hread

theorem Constructed.canonical {tx : CosmosSigned} (h : Constructed tx) : tx.Canonical := by
  obtain ⟨_, _, _, hnew⟩ := h.exists_new
  exact CosmosSigned.canonical_of_new hnew

/-- Whatever path a Cosmos transaction comes from, its cached bytes and hash are those of
its contents, which the wire decoder reads back; the constructor fails only on a bad
operation, key length or signature length; and the bytes alone tell transactions apart. -/
theorem cached_views_never_diverge :
    (∀ tx : CosmosSigned, Constructed tx →
      tx.operation.validateLimits = .ok () ∧ tx.publicKey.length = 33 ∧
      tx.signature.v = false ∧
      tx.raw = encodeWire tx.operation tx.publicKey
        (beBytes 32 tx.signature.r.toNat ++ beBytes 32 tx.signature.s.toNat) ∧
      tx.hash = Suite.keccak256 tx.raw ∧
      ∃ key scalars, decodeWire tx.raw = .ok (tx.operation, key, scalars) ∧
        key.data = tx.publicKey ∧
        scalars.data = beBytes 32 tx.signature.r.toNat ++ beBytes 32 tx.signature.s.toNat) ∧
    (∀ (operation : Operation) (publicKey signature : List UInt8),
      (∃ tx, CosmosSigned.new operation publicKey signature = .ok tx) ↔
        operation.validateLimits = .ok () ∧ publicKey.length = 33 ∧ signature.length = 64) ∧
    (∀ a b : CosmosSigned, Constructed a → Constructed b → (a = b ↔ a.raw = b.raw)) := by
  refine ⟨?_, ?_, ?_⟩
  · intro tx hconstructed
    have h := hconstructed.canonical
    have hraw := h.raw_eq
    rw [Signature.take_asBytes] at hraw
    refine ⟨Operation.validateLimits_eq_ok_iff.mpr h.limits, h.publicKey_length, h.parity, hraw,
      h.hash_eq, h.key, CosmosSigned.Canonical.scalars tx, h.decodeWire_raw, rfl, ?_⟩
    exact tx.signature.take_asBytes
  · intro operation publicKey signature
    rw [Operation.validateLimits_eq_ok_iff]
    constructor
    · intro hreturns
      obtain ⟨tx, hnew⟩ := hreturns
      obtain ⟨hlimits, hkey, hsignature, _⟩ := CosmosSigned.new_eq_ok_iff.mp hnew
      exact ⟨hlimits, hkey, hsignature⟩
    · intro hchecks
      obtain ⟨hlimits, hkey, hsignature⟩ := hchecks
      exact ⟨_, CosmosSigned.new_ofParts hlimits hkey hsignature⟩
  · intro a b ha hb
    constructor
    · intro heq
      rw [heq]
    · exact ha.canonical.ext_raw hb.canonical

end RethCosmos.Primitives
