import RethCosmos.Primitives.Envelope

/-!
# EVM adapter

The transaction environment that execution starts from, and the transactions an Engine
payload is turned into. Ethereum execution remains upstream.
-/

namespace RethCosmos

open Encoding Rust Upstream CosmosAuth Primitives
open Crypto (Suite)

inductive TxKind
  | create
  | call («to» : Address)
  deriving DecidableEq

/-- The environment of one transaction. The type `R` holds the fields that a Cosmos
transaction leaves at their defaults. -/
structure TxEnv (R : Type) where
  txType : U8
  caller : Address
  gasLimit : U64
  gasPrice : U128
  kind : TxKind
  value : U256
  data : Bytes
  nonce : U64
  chainId : Option U64
  gasPriorityFee : Option U128
  rest : R

class FromRecoveredTx (T R : Type) where
  fromRecoveredTx : T → Address → Panicking (TxEnv R)

class FromTxWithEncoded (T R : Type) where
  fromEncodedTx : T → Address → List UInt8 → Panicking (TxEnv R)

export FromRecoveredTx (fromRecoveredTx)
export FromTxWithEncoded (fromEncodedTx)

/-- A transaction with the signer it was recovered for. -/
structure Recovered (T : Type) where
  tx : CosmosEnvelope T
  signer : Address

variable {T R : Type}

/-- The environment of a Cosmos transaction, a dynamic fee call. -/
def cosmosTxEnv [Inhabited R] (op : Operation) (caller : Address) : TxEnv R where
  txType := 2
  caller := caller
  gasLimit := op.gasLimit
  gasPrice := op.maxFeePerGas
  kind := .call op.«to»
  value := op.value
  data := op.input
  nonce := op.nonce
  chainId := some op.chainId
  gasPriorityFee := some op.maxPriorityFeePerGas
  rest := default

instance [Inhabited R] [FromRecoveredTx T R] : FromRecoveredTx (CosmosEnvelope T) R where
  fromRecoveredTx tx caller :=
    match tx with
    | .ethereum tx => fromRecoveredTx tx caller
    | .cosmos tx => do
        Outcome.assert (caller = tx.operation.sender)
          "recovered Cosmos caller must match authorization"
        return cosmosTxEnv tx.operation caller

instance [Inhabited R] [FromRecoveredTx T R] [FromTxWithEncoded T R] :
    FromTxWithEncoded (CosmosEnvelope T) R where
  fromEncodedTx tx caller encoded :=
    match tx with
    | .ethereum tx => fromEncodedTx tx caller encoded
    | .cosmos tx => fromRecoveredTx (CosmosEnvelope.cosmos (T := T) tx) caller

/-! ## Engine payloads -/

/-- The encoded transactions of a payload. -/
structure ExecutionData where
  transactions : List (List UInt8)

inductive AnyError
  | eip2718 (e : Eip2718Error)
  | recovery (e : RecoveryError)

section Payload

variable [Suite] [Decodable2718 T] [SignerRecoverable T]

def convert (tx : List UInt8) : Outcome AnyError (Recovered T) := do
  let tx ← (Outcome.ofExcept (decode2718Exact tx)).mapErr .eip2718
  let signer ← (recoverSigner tx).mapErr .recovery
  return ⟨tx, signer⟩

/-- The transactions, and the conversion that is applied to each of them. -/
def txIteratorForPayload (payload : ExecutionData) :
    List (List UInt8) × (List UInt8 → Outcome AnyError (Recovered T)) :=
  (payload.transactions, convert)

/-- What the iterator yields. -/
def payloadItems (payload : ExecutionData) : List (Outcome AnyError (Recovered T)) :=
  let (txs, convert) := txIteratorForPayload payload
  txs.map convert

/-- An item that is yielded was recovered for its signer. -/
theorem recoverSigner_of_payloadItem {payload : ExecutionData} {item : Recovered T}
    (hmem : .ok item ∈ payloadItems payload) : recoverSigner item.tx = .ok item.signer := by
  obtain ⟨bytes, _, hconvert⟩ := List.mem_map.mp hmem
  simp only [convert, Outcome.bind_eq_ok_iff, Outcome.mapErr_eq_ok_iff,
    Outcome.pure_eq_ok, Outcome.ok.injEq] at hconvert
  obtain ⟨tx, _, signer, hsigner, rfl⟩ := hconvert
  exact hsigner

end Payload

/-- With the account of the operation as its caller, nothing stops the environment. -/
theorem fromRecoveredTx_cosmos [Inhabited R] [FromRecoveredTx T R] {tx : CosmosSigned}
    {caller : Address} (hcaller : caller = tx.operation.sender) :
    fromRecoveredTx (CosmosEnvelope.cosmos (T := T) tx) caller =
      .ok (cosmosTxEnv (R := R) tx.operation caller) := by
  simp only [fromRecoveredTx, Outcome.assert, hcaller, if_true, Outcome.ok_bind,
    Outcome.pure_eq_ok]

end RethCosmos
