import RethCosmos.CosmosAuth.Operation
import RethCosmos.Encoding.JsonObject

/-!
# Operations in JSON

The members of an operation and their reader, which knows no other keys. Quantities and
byte strings are hexadecimal texts; how those are written and read is a parameter.
-/

namespace RethCosmos.CosmosAuth

open Encoding Encoding.JsonObject Rust

/-- Quantities and byte strings as values of JSON. -/
class HexForms (V : Type) where
  writeQuantity : Nat → V
  readQuantity : V → Option Nat
  writeBytes : List UInt8 → V
  readBytes : V → Option (List UInt8)

export HexForms (writeQuantity readQuantity writeBytes readBytes)

/-- What is written is read back. -/
structure HexForms.Lossless (V : Type) [HexForms V] : Prop where
  quantity : ∀ n, readQuantity (writeQuantity n : V) = some n
  bytes : ∀ bytes, readBytes (writeBytes bytes : V) = some bytes

variable {V : Type} [HexForms V]

def writeUint {bits : Nat} (x : BitVec bits) : V := writeQuantity x.toNat

def readUint (bits : Nat) (value : V) : Option (BitVec bits) := do
  let n ← readQuantity value
  if n < 2 ^ bits then some (BitVec.ofNat bits n) else none

def writeFixed {n : Nat} (bytes : FixedBytes n) : V := writeBytes bytes.data

def readFixed (n : Nat) (value : V) : Option (FixedBytes n) := do
  let bytes ← readBytes value
  FixedBytes.ofSlice? n bytes

def readInput (value : V) : Option Bytes := (readBytes value).map Bytes.copyFromSlice

namespace HexForms.Lossless

variable (hlossless : HexForms.Lossless V)
include hlossless

theorem readUint_writeUint {bits : Nat} (x : BitVec bits) :
    readUint bits (writeUint x : V) = some x := by
  simp [readUint, writeUint, hlossless.quantity, x.isLt]

theorem readFixed_writeFixed {n : Nat} (bytes : FixedBytes n) :
    readFixed n (writeFixed bytes : V) = some bytes := by
  simp [readFixed, writeFixed, hlossless.bytes]

theorem readInput_writeBytes (input : Bytes) :
    readInput (writeBytes input.data : V) = some input := by
  simp [readInput, hlossless.bytes]

end HexForms.Lossless

namespace Operation

def fieldNames : List String :=
  ["chainId", "genesisHash", "sender", "nonce", "to", "value", "input", "gas", "maxFeePerGas",
    "maxPriorityFeePerGas"]

def toMembers (op : Operation) : Members V :=
  [("chainId", writeUint op.chainId),
    ("genesisHash", writeFixed op.genesisHash),
    ("sender", writeFixed op.sender),
    ("nonce", writeUint op.nonce),
    ("to", writeFixed op.«to»),
    ("value", writeUint op.value),
    ("input", writeBytes op.input.data),
    ("gas", writeUint op.gasLimit),
    ("maxFeePerGas", writeUint op.maxFeePerGas),
    ("maxPriorityFeePerGas", writeUint op.maxPriorityFeePerGas)]

def ofMembers (members : Members V) : Except String Operation := do
  denyUnknown fieldNames members
  let chainId ← field "chainId" (readUint 64) members
  let genesisHash ← field "genesisHash" (readFixed 32) members
  let sender ← field "sender" (readFixed 20) members
  let nonce ← field "nonce" (readUint 64) members
  let «to» ← field "to" (readFixed 20) members
  let value ← field "value" (readUint 256) members
  let input ← field "input" readInput members
  let gasLimit ← field "gas" (readUint 64) members
  let maxFeePerGas ← field "maxFeePerGas" (readUint 128) members
  let maxPriorityFeePerGas ← field "maxPriorityFeePerGas" (readUint 128) members
  return {
    chainId, genesisHash, sender, nonce, «to», value, input, gasLimit, maxFeePerGas,
    maxPriorityFeePerGas }

theorem map_fst_toMembers (op : Operation) :
    (op.toMembers : Members V).map Prod.fst = fieldNames := rfl

/-- Members that are there once, with no others, are the operation. -/
theorem ofMembers_eq_ok (hlossless : HexForms.Lossless V) {op : Operation} {members : Members V}
    (hknown : denyUnknown fieldNames members = .ok ())
    (hhas : ∀ m ∈ (op.toMembers : Members V), Has members m.1 m.2) :
    ofMembers members = .ok op := by
  simp only [toMembers, List.mem_cons, List.not_mem_nil, or_false, forall_eq_or_imp,
    forall_eq] at hhas
  obtain ⟨hchain, hgenesis, hsender, hnonce, hto, hvalue, hinput, hgas, hfee, htip⟩ := hhas
  simp only [ofMembers, hknown, ok_bind,
    hchain.field_eq (hlossless.readUint_writeUint _),
    hgenesis.field_eq (hlossless.readFixed_writeFixed _),
    hsender.field_eq (hlossless.readFixed_writeFixed _),
    hnonce.field_eq (hlossless.readUint_writeUint _),
    hto.field_eq (hlossless.readFixed_writeFixed _),
    hvalue.field_eq (hlossless.readUint_writeUint _),
    hinput.field_eq (hlossless.readInput_writeBytes _),
    hgas.field_eq (hlossless.readUint_writeUint _),
    hfee.field_eq (hlossless.readUint_writeUint _),
    htip.field_eq (hlossless.readUint_writeUint _), pure_eq_ok]

end Operation

end RethCosmos.CosmosAuth
