import RethCosmos.Primitives.Cosmos

/-!
# The transaction envelope

Ethereum transactions of an upstream type next to Cosmos transactions. Every trait of
the envelope dispatches on the variant; the upstream type keeps its own implementation.
-/

namespace RethCosmos.Primitives

open Encoding Rust Upstream CosmosAuth
open Crypto (Suite)

inductive CosmosEnvelope (T : Type)
  | ethereum (tx : T)
  | cosmos (tx : CosmosSigned)
  deriving DecidableEq

namespace CosmosEnvelope

variable {T : Type}

instance [Upstream.Transaction T] : Upstream.Transaction (CosmosEnvelope T) where
  input
    | .ethereum tx => input tx
    | .cosmos tx => tx.operation.input

instance [Typed2718 T] : Typed2718 (CosmosEnvelope T) where
  ty
    | .ethereum t => ty t
    | .cosmos _ => CosmosAuth.txType

instance [Typed2718 T] : TransactionEnvelope (CosmosEnvelope T) CosmosTxType where
  txType tx := Outcome.expect (CosmosTxType.tryFrom (ty tx)) "supported envelope type"

instance [TxHashRef T] : TxHashRef (CosmosEnvelope T) where
  txHash
    | .ethereum t => txHash t
    | .cosmos t => t.hash

instance [Suite] [SignerRecoverable T] : SignerRecoverable (CosmosEnvelope T) where
  recoverSigner
    | .ethereum t => recoverSigner t
    | .cosmos t => t.verify
  recoverSignerUnchecked
    | .ethereum t => recoverSignerUnchecked t
    | .cosmos t => t.verify
  recoverWithBuf tx buf :=
    match tx with
    | .ethereum t => recoverWithBuf t buf
    | .cosmos t => (t.verify, buf)
  recoverUncheckedWithBuf tx buf :=
    match tx with
    | .ethereum t => recoverUncheckedWithBuf t buf
    | .cosmos t => (t.verify, buf)

instance [Encodable2718 T] : Encodable2718 (CosmosEnvelope T) where
  encode2718Len
    | .ethereum t => encode2718Len t
    | .cosmos t => t.raw.length
  encode2718
    | .ethereum t => encode2718 t
    | .cosmos t => t.raw

/-- The typed decoder. The cursor moves once, after the last check. -/
def typedDecode [Suite] [Decodable2718 T] (ty : UInt8) :
    Cursor Eip2718Error (CosmosEnvelope T) := do
  if ty ≠ CosmosAuth.txType then
    (Decodable2718.typedDecode ty).map .ethereum
  else
    let original ← Cursor.remaining
    let (h, _) ← Cursor.lift ((Rlp.Header.decode original).mapError .rlpError)
    let len := h.length + h.payloadLength
    if ¬ h.list ∨ len > maxRawTx - 1 ∨ len > original.length then
      Cursor.fail (.rlpError (.custom "invalid Cosmos transaction size"))
    else
      let raw := ty :: original.take len
      let (op, key, sig) ← Cursor.lift
        ((decodeWire raw).mapError fun _ => .rlpError (.custom "invalid Cosmos encoding"))
      let signed ← Cursor.lift ((CosmosSigned.new op key.data sig.data).mapError fun _ =>
        .rlpError (.custom "invalid Cosmos encoding"))
      Cursor.assign (original.drop len)
      return .cosmos signed

instance [Suite] [Decodable2718 T] : Decodable2718 (CosmosEnvelope T) where
  typedDecode := typedDecode
  fallbackDecode := Decodable2718.fallbackDecode.map .ethereum

instance [Encodable2718 T] : RlpEncodable (CosmosEnvelope T) where
  encode := networkEncode
  length := networkLen

instance [Suite] [LengthCheck] [Decodable2718 T] : RlpDecodable (CosmosEnvelope T) where
  decode := networkDecode.mapError Eip2718Error.toRlp

end CosmosEnvelope

end RethCosmos.Primitives
