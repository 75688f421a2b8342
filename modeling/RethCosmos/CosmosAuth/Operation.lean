import RethCosmos.Encoding.Rlp
import RethCosmos.Rust.Result

/-!
# Operations and their wire encoding

The operation a Cosmos account authorizes, its versioned RLP payload, and the
transaction that carries the payload together with the public key and the signature.
Both decoders read the fields in order, encode the result again and compare.
-/

namespace RethCosmos.CosmosAuth

open Encoding

abbrev U8 := BitVec 8
abbrev U64 := BitVec 64
abbrev U128 := BitVec 128
abbrev U256 := BitVec 256
abbrev B256 := FixedBytes 32
abbrev Address := FixedBytes 20

def txType : UInt8 := 0x7e
def maxCalldata : Nat := 32 * 1024
def maxRawTx : Nat := maxCalldata + 512
def maxGas : U64 := 30000000
def version : U8 := 1

/-- `reth-cosmos-adr036` in UTF-8. -/
def protocol : List UInt8 :=
  [0x72, 0x65, 0x74, 0x68, 0x2d, 0x63, 0x6f, 0x73, 0x6d, 0x6f, 0x73, 0x2d,
    0x61, 0x64, 0x72, 0x30, 0x33, 0x36]

@[ext] structure Operation where
  chainId : U64
  genesisHash : B256
  sender : Address
  nonce : U64
  «to» : Address
  value : U256
  input : Bytes
  gasLimit : U64
  maxFeePerGas : U128
  maxPriorityFeePerGas : U128
  deriving DecidableEq

inductive AuthError
  | encoding
  | limit
  | domain
  | publicKey
  | sender
  | signature
  deriving DecidableEq, Repr

/-- Every failure of the RLP reader is an encoding error. -/
def AuthError.ofRlp : Rlp.Error → AuthError := fun _ => .encoding

/-- `?` on a decoder of the RLP reader. -/
def liftRlp {α : Type} (dec : Decoder Rlp.Error UInt8 α) : Decoder AuthError UInt8 α :=
  fun buf => (dec buf).mapError AuthError.ofRlp

def list (fields : List UInt8) : List UInt8 := Rlp.encodeList fields

/-- The body of an input that is one list and nothing else. -/
def listBody (raw : List UInt8) : Except AuthError (List UInt8) := do
  let (header, raw) ← liftRlp Rlp.Header.decode raw
  if !header.list ∨ raw.length ≠ header.payloadLength then
    throw .encoding
  return raw

namespace Operation

def validateLimits (op : Operation) : Except AuthError Unit :=
  if op.input.length > maxCalldata ∨ op.gasLimit > maxGas ∨ op.gasLimit < 21000 ∨
      op.nonce = BitVec.allOnes 64 ∨ op.maxPriorityFeePerGas > op.maxFeePerGas then
    .error .limit
  else .ok ()

/-- The ten fields of an operation as items, in payload order. -/
def fields (op : Operation) : List UInt8 :=
  Rlp.encodeUint op.chainId ++
  Rlp.encodeFixed op.genesisHash ++
  Rlp.encodeFixed op.sender ++
  Rlp.encodeUint op.nonce ++
  Rlp.encodeFixed op.«to» ++
  Rlp.encodeUint op.value ++
  Rlp.encodeBytes op.input.data ++
  Rlp.encodeUint op.gasLimit ++
  Rlp.encodeUint op.maxFeePerGas ++
  Rlp.encodeUint op.maxPriorityFeePerGas

/-- The items of the payload, back to back. -/
def payloadItems (op : Operation) : List UInt8 :=
  Rlp.encodeBytes protocol ++ Rlp.encodeUint version ++ op.fields

/-- Versioned RLP list. Integers use minimal unsigned big-endian RLP. -/
def payload (op : Operation) : List UInt8 := list op.payloadItems

/-- The ten fields, read in payload order. -/
def decodeFields (buf : List UInt8) : Except AuthError (Operation × List UInt8) := do
  let (chainId, buf) ← liftRlp (Rlp.decodeUint 64) buf
  let (genesisHash, buf) ← liftRlp (Rlp.decodeFixed 32) buf
  let (sender, buf) ← liftRlp (Rlp.decodeFixed 20) buf
  let (nonce, buf) ← liftRlp (Rlp.decodeUint 64) buf
  let («to», buf) ← liftRlp (Rlp.decodeFixed 20) buf
  let (value, buf) ← liftRlp (Rlp.decodeUint 256) buf
  let (input, buf) ← liftRlp Rlp.decodeBytes buf
  let (gasLimit, buf) ← liftRlp (Rlp.decodeUint 64) buf
  let (maxFeePerGas, buf) ← liftRlp (Rlp.decodeUint 128) buf
  let (maxPriorityFeePerGas, buf) ← liftRlp (Rlp.decodeUint 128) buf
  return ({
    chainId, genesisHash, sender, nonce, «to», value, input := Bytes.copyFromSlice input,
    gasLimit, maxFeePerGas, maxPriorityFeePerGas }, buf)

def decodePayload (raw : List UInt8) : Except AuthError Operation := do
  if raw.length > maxRawTx then
    throw .limit
  let buf ← listBody raw
  let (readProtocol, buf) ← liftRlp Rlp.decodeBytes buf
  let (readVersion, buf) ← liftRlp (Rlp.decodeUint 8) buf
  if readProtocol ≠ protocol ∨ readVersion ≠ version then
    throw .encoding
  let (op, buf) ← decodeFields buf
  if buf ≠ [] ∨ op.payload ≠ raw then
    throw .encoding
  op.validateLimits
  return op

end Operation

/-- The items of a transaction, back to back. -/
def wireFields (op : Operation) (key signature : List UInt8) : List UInt8 :=
  Rlp.encodeBytes op.payload ++ Rlp.encodeBytes key ++ Rlp.encodeBytes signature

def encodeWire (op : Operation) (key signature : List UInt8) : List UInt8 :=
  txType :: list (wireFields op key signature)

def decodeWire (raw : List UInt8) :
    Except AuthError (Operation × FixedBytes 33 × FixedBytes 64) := do
  if raw.length > maxRawTx then
    throw .limit
  if raw.head? ≠ some txType then
    throw .encoding
  let buf ← listBody (raw.drop 1)
  let (payload, buf) ← liftRlp Rlp.decodeBytes buf
  let (key, buf) ← liftRlp Rlp.decodeBytes buf
  let (signature, buf) ← liftRlp Rlp.decodeBytes buf
  let op ← Operation.decodePayload payload
  let some key := FixedBytes.ofSlice? 33 key | throw .publicKey
  let some signature := FixedBytes.ofSlice? 64 signature | throw .signature
  if buf ≠ [] ∨ encodeWire op key.data signature.data ≠ raw then
    throw .encoding
  return (op, key, signature)

end RethCosmos.CosmosAuth
