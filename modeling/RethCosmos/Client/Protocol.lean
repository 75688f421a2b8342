import RethCosmos.Client.Libraries
import RethCosmos.Crypto.Secp256k1

/-!
# The client protocol

The client's own statement of the protocol: the operation with unbounded integers and
text fields, its payload, the sign document and the signed transaction.
-/

namespace RethCosmos.Client

open Encoding
open Crypto (Suite)

def chainId : Int := 366036

def recipient : Text := "0x0000000000000000000000000000000000002000".toList

def maxCalldata : Nat := 32768

structure Operation where
  chainId : Int
  genesisHash : Text
  sender : Text
  nonce : Int
  «to» : Text
  value : Int
  input : Text
  gasLimit : Int
  maxFeePerGas : Int
  maxPriorityFeePerGas : Int

def integer (n : Int) (bits : Nat) : Except Error Text :=
  if n < 0 ∨ n ≥ 2 ^ bits then
    .error (.thrown ("uint" ++ toString bits ++ " overflow"))
  else if n = 0 then .ok "0x".toList
  else .ok (toBeHex n.toNat)

def fixed (value : Text) (length : Nat) : Except Error Text := do
  let bytes ← getBytes value
  if bytes.length ≠ length then
    throw (.thrown ("expected " ++ toString length ++ " bytes"))
  return value

def payload (op : Operation) : Except Error Text := do
  let input ← getBytes op.input
  if input.length > maxCalldata then
    throw (.thrown "calldata too large")
  if op.gasLimit < 21000 ∨ op.gasLimit > 30000000 then
    throw (.thrown "gas limit")
  if op.maxPriorityFeePerGas > op.maxFeePerGas then
    throw (.thrown "fee bounds")
  if op.nonce = 2 ^ 64 - 1 then
    throw (.thrown "nonce limit")
  encodeRlp [
    hexlify (utf8 "reth-cosmos-adr036".toList),
    "0x01".toList,
    ← integer op.chainId 64,
    ← fixed op.genesisHash 32,
    ← fixed op.sender 20,
    ← integer op.nonce 64,
    ← fixed op.«to» 20,
    ← integer op.value 256,
    op.input,
    ← integer op.gasLimit 64,
    ← integer op.maxFeePerGas 128,
    ← integer op.maxPriorityFeePerGas 128]

def signDoc (op : Operation) : Except Error StdSignDoc := do
  let data ← getBytes (← payload op)
  let signer ← toBech32 "cosmos".toList (← getBytes op.sender)
  return .obj [
    ("account_number", .str "0".toList),
    ("chain_id", .str []),
    ("fee", .obj [("amount", .arr []), ("gas", .str "0".toList)]),
    ("memo", .str []),
    ("msgs", .arr [.obj [
      ("type", .str "sign/MsgSignData".toList),
      ("value", .obj [("data", .str (Base64.encode data)), ("signer", .str signer)])]]),
    ("sequence", .str "0".toList)]

/-- What `sign` returns. -/
structure Signed where
  raw : Text
  hash : Text
  signBytes : Text
  signature : Text
  publicKey : Text
  sender : Text
  cosmos : Text

section

variable [Suite] (fromBase64 : Text → Except Error (List UInt8))

def sign (wallet : Wallet) (op : Operation) : Except Error Signed := do
  let some account := wallet.getAccounts.head? | throw (.thrown "missing signing account")
  let response ← wallet.signAmino account (← signDoc op)
  let signBytes := serializeSignDoc response.signed
  if hexlify signBytes ≠ hexlify (serializeSignDoc (← signDoc op)) then
    throw (.thrown "wallet changed the authorization")
  let key ← fromBase64 response.signature.pubKeyValue
  let sig ← fromBase64 response.signature.signature
  let raw := "0x7e".toList ++ (← encodeRlp [← payload op, hexlify key, hexlify sig]).drop 2
  return {
    raw
    hash := hexlify (Suite.keccak256 (← getBytes raw)).data
    signBytes := hexlify signBytes
    signature := hexlify sig
    publicKey := hexlify key
    sender := hexlify (Suite.ripemd160 (Suite.sha256 key).data).data
    cosmos := account }

end

/-- The operation of the test fixtures. -/
def operation (genesisHash : Text) (nonce : Int) : Operation where
  chainId := chainId
  genesisHash := genesisHash
  sender := "0x751e76e8199196d454941c45d1b3a323f1433bd6".toList
  nonce := nonce
  «to» := recipient
  value := 123456789
  input := "0x".toList
  gasLimit := 21000
  maxFeePerGas := 2000000000
  maxPriorityFeePerGas := 100000000

end RethCosmos.Client
