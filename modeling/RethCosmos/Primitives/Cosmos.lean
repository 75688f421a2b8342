import RethCosmos.CosmosAuth.Verify
import RethCosmos.Primitives.TxType

/-!
# Signed Cosmos transactions

The operation with its key and signature, and two cached views of the same data: the
wire bytes and their hash. Every value comes out of the constructor, which encodes the
parts, decodes them again and keeps the result.
-/

namespace RethCosmos.Primitives

open Encoding Rust Upstream CosmosAuth
open Crypto (Suite)

/-- Immutable authorization. Never exposes Ethereum signer recovery. -/
@[ext] structure CosmosSigned where
  operation : Operation
  publicKey : List UInt8
  signature : Upstream.Signature
  hash : B256
  raw : List UInt8
  deriving DecidableEq

namespace CosmosSigned

variable [Suite]

def new (operation : Operation) (publicKey signature : List UInt8) :
    Except AuthError CosmosSigned := do
  operation.validateLimits
  if publicKey.length ≠ 33 then
    throw .publicKey
  if signature.length ≠ 64 then
    throw .signature
  let raw := encodeWire operation publicKey signature
  let (operation, _, sig) ← decodeWire raw
  return {
    operation
    publicKey
    signature := ⟨fromBeSlice (sig.data.take 32), fromBeSlice (sig.data.drop 32), false⟩
    hash := Suite.keccak256 raw
    raw }

def verify (tx : CosmosSigned) : Outcome RecoveryError Address :=
  (tx.operation.verify tx.publicKey (tx.signature.asBytes.take 64) genesisHash).mapErr
    fun _ => .mk

/-! ## JSON form -/

/-- The members of the JSON object, as the derived reader returns them. -/
structure Rpc where
  txType : CosmosTxType
  operation : Operation
  publicKey : List UInt8
  cosmosSignature : List UInt8
  hash : B256

inductive DeserializeError
  | object (message : String)
  | transaction (e : AuthError)
  | custom (message : String)

def serialize (tx : CosmosSigned) : Rpc where
  txType := CosmosTxType.COSMOS
  operation := tx.operation
  publicKey := tx.publicKey
  cosmosSignature := tx.signature.asBytes.take 64
  hash := tx.hash

/-- The argument is what the derived reader makes of the input. -/
def deserialize (read : Except DeserializeError Rpc) : Except DeserializeError CosmosSigned := do
  let rpc ← read
  let tx ← (new rpc.operation rpc.publicKey rpc.cosmosSignature).mapError .transaction
  if rpc.txType ≠ CosmosTxType.COSMOS ∨ tx.hash ≠ rpc.hash then
    throw (.custom "Cosmos type or hash mismatch")
  return tx

/-! ## The constructor -/

/-- The transaction of an operation, a key and the 64 bytes of a signature. -/
def ofParts (operation : Operation) (publicKey signature : List UInt8) : CosmosSigned where
  operation := operation
  publicKey := publicKey
  signature := Signature.ofScalars signature
  hash := Suite.keccak256 (encodeWire operation publicKey signature)
  raw := encodeWire operation publicKey signature

theorem new_ofParts {operation : Operation} {publicKey signature : List UInt8}
    (hlimits : operation.WithinLimits) (hkey : publicKey.length = 33)
    (hsignature : signature.length = 64) :
    new operation publicKey signature = .ok (ofParts operation publicKey signature) := by
  have hread := decodeWire_encodeWire hlimits ⟨publicKey, hkey⟩ ⟨signature, hsignature⟩
  have hok := Operation.validateLimits_eq_ok_iff.mpr hlimits
  simp only at hread
  simp [new, hok, hkey, hsignature, hread, ofParts, Signature.ofScalars]

/-- Decoding what was just encoded gives the parts back, so the checks decide alone. -/
theorem new_eq_ok_iff {operation : Operation} {publicKey signature : List UInt8}
    {tx : CosmosSigned} :
    new operation publicKey signature = .ok tx ↔
      operation.WithinLimits ∧ publicKey.length = 33 ∧ signature.length = 64 ∧
        tx = ofParts operation publicKey signature := by
  constructor
  · intro hnew
    have hchecks : operation.WithinLimits ∧ publicKey.length = 33 ∧ signature.length = 64 := by
      simp only [new, throw_eq_error, error_bind, ite_error_eq_ok_iff,
        bind_eq_ok_iff, ne_eq, Decidable.not_not] at hnew
      obtain ⟨_, hlimits, hkey, hsignature, _⟩ := hnew
      exact ⟨Operation.validateLimits_eq_ok_iff.mp hlimits, hkey, hsignature⟩
    obtain ⟨hlimits, hkey, hsignature⟩ := hchecks
    rw [new_ofParts hlimits hkey hsignature, Except.ok.injEq] at hnew
    exact ⟨hlimits, hkey, hsignature, hnew.symm⟩
  · intro hparts
    obtain ⟨hlimits, hkey, hsignature, rfl⟩ := hparts
    exact new_ofParts hlimits hkey hsignature

/-! ## The invariant -/

/-- The cached bytes and hash are those of the contents, and the contents are encodable. -/
structure Canonical (tx : CosmosSigned) : Prop where
  limits : tx.operation.WithinLimits
  publicKey_length : tx.publicKey.length = 33
  parity : tx.signature.v = false
  raw_eq : tx.raw = encodeWire tx.operation tx.publicKey (tx.signature.asBytes.take 64)
  hash_eq : tx.hash = Suite.keccak256 tx.raw

theorem canonical_of_new {operation : Operation} {publicKey signature : List UInt8}
    {tx : CosmosSigned} (hnew : new operation publicKey signature = .ok tx) : tx.Canonical := by
  obtain ⟨hlimits, hkey, hsignature, rfl⟩ := new_eq_ok_iff.mp hnew
  exact {
    limits := hlimits
    publicKey_length := hkey
    parity := rfl
    raw_eq := by rw [ofParts, Signature.take_asBytes_ofScalars hsignature]
    hash_eq := rfl }

namespace Canonical

variable {tx a b : CosmosSigned}

/-- A canonical transaction is the one its own parts make. -/
theorem new_eq (h : tx.Canonical) :
    new tx.operation tx.publicKey (tx.signature.asBytes.take 64) = .ok tx := by
  apply new_eq_ok_iff.mpr
  refine ⟨h.limits, h.publicKey_length, tx.signature.take_asBytes_length, ?_⟩
  have hsignature := Signature.ofScalars_take_asBytes h.parity
  simp only [ofParts, hsignature, ← h.raw_eq, ← h.hash_eq]

theorem eq_ofParts (h : tx.Canonical) :
    tx = ofParts tx.operation tx.publicKey (tx.signature.asBytes.take 64) :=
  (new_eq_ok_iff.mp h.new_eq).2.2.2

def key (h : tx.Canonical) : FixedBytes 33 := ⟨tx.publicKey, h.publicKey_length⟩

/-- The 64 bytes of the scalars. -/
def scalars (tx : CosmosSigned) : FixedBytes 64 :=
  ⟨tx.signature.asBytes.take 64, tx.signature.take_asBytes_length⟩

theorem decodeWire_raw (h : tx.Canonical) :
    decodeWire tx.raw = .ok (tx.operation, h.key, scalars tx) :=
  decodeWire_eq_ok_iff.mpr ⟨h.limits, h.raw_eq⟩

/-- The wire bytes determine everything else. -/
theorem ext_raw (ha : a.Canonical) (hb : b.Canonical) (hraw : a.raw = b.raw) : a = b := by
  have hread := ha.decodeWire_raw
  rw [hraw, hb.decodeWire_raw] at hread
  simp only [Except.ok.injEq, Prod.mk.injEq] at hread
  obtain ⟨hoperation, hkey, hscalars⟩ := hread
  -- both are what the constructor makes of the same three parts
  have hpublicKey : b.publicKey = a.publicKey := congrArg FixedBytes.data hkey
  have hsignature : b.signature.asBytes.take 64 = a.signature.asBytes.take 64 :=
    congrArg FixedBytes.data hscalars
  have hnew := ha.new_eq
  rw [← hoperation, ← hpublicKey, ← hsignature, hb.new_eq, Except.ok.injEq] at hnew
  exact hnew.symm

end Canonical

end CosmosSigned

end RethCosmos.Primitives
