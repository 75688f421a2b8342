import RethCosmos.CosmosAuth.OperationJson
import RethCosmos.Encoding.Hex
import RethCosmos.Encoding.Json
import RethCosmos.Primitives.Construction
import RethCosmos.Primitives.Sample

/-!
# JSON form of Cosmos transactions

The members of the operation lie flat between those of the transaction. Reading tolerates
members with other keys, rebuilds the transaction from the operation, key and signature,
and compares the hash.
-/

namespace RethCosmos.Primitives

open Encoding Encoding.JsonObject Rust Upstream CosmosAuth
open Crypto (Suite)

variable {V : Type} [HexForms V]

def CosmosTxType.write (ty : CosmosTxType) : V := writeQuantity ty.ty.toNat

/-- A one-byte quantity that is a supported type. -/
def CosmosTxType.read (value : V) : Option CosmosTxType := do
  let n ← readUint 8 value
  (CosmosTxType.tryFrom (UInt8.ofBitVec n)).toOption

namespace CosmosSigned

namespace Rpc

def fieldNames : List String :=
  ["type"] ++ Operation.fieldNames ++ ["publicKey", "cosmosSignature", "hash"]

def toMembers (rpc : Rpc) : Members V :=
  [("type", rpc.txType.write)] ++ rpc.operation.toMembers ++
    [("publicKey", writeBytes rpc.publicKey),
      ("cosmosSignature", writeBytes rpc.cosmosSignature),
      ("hash", writeFixed rpc.hash)]

def ofMembers (members : Members V) : Except String Rpc := do
  let txType ← field "type" CosmosTxType.read members
  let publicKey ← field "publicKey" readBytes members
  let cosmosSignature ← field "cosmosSignature" readBytes members
  let hash ← field "hash" (readFixed 32) members
  let operation ← Operation.ofMembers (flatten Operation.fieldNames members)
  return { txType, operation, publicKey, cosmosSignature, hash }

theorem map_fst_toMembers (rpc : Rpc) :
    (rpc.toMembers : Members V).map Prod.fst = fieldNames := rfl

theorem fieldNames_nodup : fieldNames.Nodup := by decide

theorem mem_fieldNames {rpc : Rpc} {m : String × V} (hm : m ∈ (rpc.toMembers : Members V)) :
    m.1 ∈ fieldNames := by
  rw [← map_fst_toMembers (V := V) rpc]
  exact List.mem_map_of_mem hm

end Rpc

/-- `Serialize`: the members of the JSON object. -/
def toJson (tx : CosmosSigned) : Members V := tx.serialize.toMembers

/-- `Deserialize` of a JSON object. -/
def ofJson [Suite] (members : Members V) : Except DeserializeError CosmosSigned :=
  deserialize ((Rpc.ofMembers members).mapError .object)

/-! ## Reading what was written -/

theorem read_write (hlossless : HexForms.Lossless V) (ty : CosmosTxType) :
    CosmosTxType.read (ty.write : V) = some ty := by
  have hlt := ty.ty.toNat_lt
  have hread : readUint 8 (ty.write : V) = some ty.ty.toBitVec := by
    simp [readUint, CosmosTxType.write, hlossless.quantity, hlt]
  simp [CosmosTxType.read, hread, CosmosTxType.tryFrom_ty, Except.toOption]

/-- Neither the order of the members nor members with other keys matter. -/
theorem Rpc.ofMembers_eq_ok (hlossless : HexForms.Lossless V) {rpc : Rpc}
    {members extra : Members V} (hperm : members.Perm (rpc.toMembers ++ extra))
    (hextra : ∀ m ∈ extra, m.1 ∉ Rpc.fieldNames) : Rpc.ofMembers members = .ok rpc := by
  have hnodup : ((rpc.toMembers : Members V).map Prod.fst).Nodup := by
    rw [Rpc.map_fst_toMembers]
    exact Rpc.fieldNames_nodup
  have hhas : ∀ m ∈ (rpc.toMembers : Members V), Has members m.1 m.2 := by
    intro m hm
    have hone : Has rpc.toMembers m.1 m.2 := has_of_nodup hnodup hm
    apply (hone.append _).perm hperm
    intro m' hm' hkey
    apply hextra m' hm'
    rw [hkey]
    exact Rpc.mem_fieldNames hm
  have hoperation : Operation.ofMembers (flatten Operation.fieldNames members) =
      .ok rpc.operation := by
    apply Operation.ofMembers_eq_ok hlossless (denyUnknown_flatten _ _)
    intro m hm
    have hname : m.1 ∈ Operation.fieldNames := by
      rw [← Operation.map_fst_toMembers (V := V) rpc.operation]
      exact List.mem_map_of_mem hm
    apply (has_flatten_iff hname).mpr
    apply hhas
    simp only [Rpc.toMembers, List.mem_append, hm, or_true, true_or]
  have htype := hhas ("type", rpc.txType.write) (by simp [Rpc.toMembers])
  have hkey := hhas ("publicKey", writeBytes rpc.publicKey) (by simp [Rpc.toMembers])
  have hsignature := hhas ("cosmosSignature", writeBytes rpc.cosmosSignature)
    (by simp [Rpc.toMembers])
  have hhash := hhas ("hash", writeFixed rpc.hash) (by simp [Rpc.toMembers])
  simp only [Rpc.ofMembers, htype.field_eq (read_write hlossless _),
    hkey.field_eq (hlossless.bytes _), hsignature.field_eq (hlossless.bytes _),
    hhash.field_eq (hlossless.readFixed_writeFixed _), hoperation, ok_bind, pure_eq_ok]

/-! ## Accepted objects -/

theorem deserialize_serialize [Suite] {tx : CosmosSigned} (h : tx.Canonical) :
    deserialize (.ok tx.serialize) = .ok tx := by
  simp only [deserialize, serialize, ok_bind, h.new_eq, Except.mapError, ne_eq, not_true_eq_false,
    or_self, if_false, pure_eq_ok]

/-- An accepted object has the members that its transaction is written with. -/
theorem serialize_of_deserialize [Suite] {rpc : Rpc} {tx : CosmosSigned}
    (hread : deserialize (.ok rpc) = .ok tx) : tx.serialize = rpc := by
  simp only [deserialize, ok_bind, throw_eq_error, error_bind, bind_eq_ok_iff, mapError_eq_ok_iff,
    ite_error_eq_ok_iff, pure_eq_ok, Except.ok.injEq, not_or, not_not] at hread
  obtain ⟨signed, hnew, ⟨htype, hhash⟩, rfl⟩ := hread
  obtain ⟨_, _, hsignature, rfl⟩ := new_eq_ok_iff.mp hnew
  obtain ⟨txType, operation, publicKey, cosmosSignature, hash⟩ := rpc
  simp only at htype hhash hsignature
  simp only [serialize, htype, ← hhash, ofParts, Signature.take_asBytes_ofScalars hsignature]

theorem ofJson_eq_ok_iff [Suite] {members : Members V} {tx : CosmosSigned} :
    ofJson members = .ok tx ↔
      ∃ rpc, Rpc.ofMembers members = .ok rpc ∧ deserialize (.ok rpc) = .ok tx := by
  unfold ofJson
  cases Rpc.ofMembers members with
  | error e => simp [Except.mapError, deserialize]
  | ok rpc => simp [Except.mapError]

theorem Rpc.field_hash {members : Members V} {rpc : Rpc} (hread : Rpc.ofMembers members = .ok rpc) :
    field "hash" (readFixed 32) members = .ok rpc.hash := by
  simp only [Rpc.ofMembers, bind_eq_ok_iff, pure_eq_ok, Except.ok.injEq] at hread
  obtain ⟨_, _, _, _, _, _, hash, hhash, _, _, rfl⟩ := hread
  exact hhash

/-- The values of an accepted object, read and written. -/
theorem ofJson_sound [Suite] (hlossless : HexForms.Lossless V) {members : Members V}
    {tx : CosmosSigned} (hread : ofJson members = .ok tx) :
    tx.Canonical ∧ Rpc.ofMembers members = .ok tx.serialize ∧
      Rpc.ofMembers (tx.toJson : Members V) = .ok tx.serialize := by
  obtain ⟨rpc, hrpc, htx⟩ := ofJson_eq_ok_iff.mp hread
  obtain ⟨_, _, _, hnew⟩ := new_of_deserialize htx
  obtain rfl := serialize_of_deserialize htx
  refine ⟨canonical_of_new hnew, hrpc, ?_⟩
  have hperm : (tx.toJson : Members V).Perm (tx.serialize.toMembers ++ []) := by
    rw [List.append_nil]
    exact List.Perm.refl _
  exact Rpc.ofMembers_eq_ok hlossless hperm (by simp)

end CosmosSigned

open CosmosSigned

/-- Written objects are read back, whatever else is in them and in any order. An accepted
object has the Cosmos type and the hash of the transaction, and the transaction is written
with the values that were read. Two accepted objects with one hash and different values
are a collision of the hash function. -/
theorem rpc_form_is_lossless_and_tamper_evident [Suite] (V : Type) [HexForms V]
    (hlossless : HexForms.Lossless V) :
    (∀ tx : CosmosSigned, Constructed tx → ∀ members extra : Members V,
      (∀ m ∈ extra, m.1 ∉ Rpc.fieldNames) → members.Perm (tx.toJson ++ extra) →
        ofJson members = .ok tx) ∧
    (∀ (members : Members V) (tx : CosmosSigned), ofJson members = .ok tx →
      ∃ rpc, Rpc.ofMembers members = .ok rpc ∧ rpc.txType = CosmosTxType.COSMOS ∧
        Suite.keccak256 tx.raw = rpc.hash ∧
        Rpc.ofMembers (tx.toJson : Members V) = .ok rpc) ∧
    (∀ (members members' : Members V) (tx tx' : CosmosSigned),
      ofJson members = .ok tx → ofJson members' = .ok tx' →
      field "hash" (readFixed 32) members = field "hash" (readFixed 32) members' →
      Rpc.ofMembers members ≠ Rpc.ofMembers members' →
        tx.raw ≠ tx'.raw ∧ Suite.keccak256 tx.raw = Suite.keccak256 tx'.raw) := by
  refine ⟨?_, ?_, ?_⟩
  · intro tx hconstructed members extra hextra hperm
    have hrpc := Rpc.ofMembers_eq_ok hlossless hperm hextra
    exact ofJson_eq_ok_iff.mpr ⟨_, hrpc, deserialize_serialize hconstructed.canonical⟩
  · intro members tx hread
    obtain ⟨hcanonical, hrpc, hwritten⟩ := ofJson_sound hlossless hread
    exact ⟨tx.serialize, hrpc, rfl, hcanonical.hash_eq.symm, hwritten⟩
  · intro members members' tx tx' hread hread' hhash hdiffer
    obtain ⟨hcanonical, hrpc, _⟩ := ofJson_sound hlossless hread
    obtain ⟨hcanonical', hrpc', _⟩ := ofJson_sound hlossless hread'
    constructor
    · intro hraw
      obtain rfl := hcanonical.ext_raw hcanonical' hraw
      exact hdiffer (hrpc.trans hrpc'.symm)
    · rw [Rpc.field_hash hrpc, Rpc.field_hash hrpc'] at hhash
      rw [← hcanonical.hash_eq, ← hcanonical'.hash_eq]
      exact Except.ok.inj hhash

/-! ## A transaction in a block -/

namespace Sample

/-- Texts of minimal digits and of pairs of digits, behind `0x`. -/
scoped instance hexForms : HexForms Json where
  writeQuantity n := .str ('0' :: 'x' :: Nat.toDigits 16 n)
  readQuantity
    | .str ('0' :: 'x' :: digits) =>
        (Hex.decode (if digits.length % 2 = 1 then '0' :: digits else digits)).map ofBe
    | _ => none
  writeBytes bytes := .str ('0' :: 'x' :: Hex.encode bytes)
  readBytes
    | .str ('0' :: 'x' :: digits) => Hex.decode digits
    | _ => none

theorem hexForms_lossless : HexForms.Lossless Json where
  quantity n := by
    have hread : readQuantity (writeQuantity n : Json) = (Hex.decode (Hex.natDigits n)).map ofBe :=
      rfl
    rw [hread]
    cases n with
    | zero => decide
    | succ n =>
        have hlt : n + 1 < 256 ^ (n + 1) := Nat.lt_pow_self (by decide)
        rw [Hex.natDigits_eq_encode (Nat.succ_pos n) hlt, Hex.decode_encode, Option.map_some,
          ofBe_trimmedBe hlt]
  bytes bytes := Hex.decode_encode bytes

end Sample

open Sample in
/-- The sample between members that a block adds. -/
theorem sample_is_read_from_a_block :
    let blockHash : String × Json := ("blockHash", writeFixed (FixedBytes.ofNat 32 0))
    let signer : String × Json := ("from", writeFixed operation.sender)
    ofJson (blockHash :: (signed.toJson ++ [signer])) = .ok signed := by
  intro blockHash signer
  have hform := rpc_form_is_lossless_and_tamper_evident Json hexForms_lossless
  apply hform.1 signed (Constructed.new new_signed) _ [blockHash, signer]
  · intro m hm
    rcases List.mem_cons.mp hm with heq | hm
    · rw [heq]
      decide
    · rw [List.mem_singleton.mp hm]
      decide
  · exact List.perm_middle.symm

end RethCosmos.Primitives
