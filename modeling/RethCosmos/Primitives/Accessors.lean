import RethCosmos.Primitives.Envelope
import RethCosmos.Upstream.Accessors

/-!
# Accessors of Cosmos transactions

A Cosmos transaction shows itself as a dynamic fee call without blobs. The envelope
dispatches every accessor on the variant.
-/

namespace RethCosmos.Primitives

open Encoding Rust Upstream CosmosAuth

instance : TransactionAccessors CosmosSigned where
  input tx := tx.operation.input
  chainId tx := some tx.operation.chainId
  nonce tx := tx.operation.nonce
  gasLimit tx := tx.operation.gasLimit
  gasPrice _ := none
  maxFeePerGas tx := tx.operation.maxFeePerGas
  maxPriorityFeePerGas tx := some tx.operation.maxPriorityFeePerGas
  maxFeePerBlobGas _ := none
  priorityFeeOrPrice tx := tx.operation.maxPriorityFeePerGas
  effectiveGasPrice tx baseFee :=
    calcEffectiveGasPrice tx.operation.maxFeePerGas tx.operation.maxPriorityFeePerGas baseFee
  isDynamicFee _ := true
  value tx := tx.operation.value
  blobVersionedHashes _ := none

namespace CosmosEnvelope

variable {T : Type} [TransactionAccessors T]

instance : TransactionAccessors (CosmosEnvelope T) where
  chainId
    | .ethereum tx => chainId tx
    | .cosmos tx => chainId tx
  nonce
    | .ethereum tx => nonce tx
    | .cosmos tx => nonce tx
  gasLimit
    | .ethereum tx => gasLimit tx
    | .cosmos tx => gasLimit tx
  gasPrice
    | .ethereum tx => gasPrice tx
    | .cosmos tx => gasPrice tx
  maxFeePerGas
    | .ethereum tx => maxFeePerGas tx
    | .cosmos tx => maxFeePerGas tx
  maxPriorityFeePerGas
    | .ethereum tx => maxPriorityFeePerGas tx
    | .cosmos tx => maxPriorityFeePerGas tx
  maxFeePerBlobGas
    | .ethereum tx => maxFeePerBlobGas tx
    | .cosmos tx => maxFeePerBlobGas tx
  priorityFeeOrPrice
    | .ethereum tx => priorityFeeOrPrice tx
    | .cosmos tx => priorityFeeOrPrice tx
  effectiveGasPrice
    | .ethereum tx, baseFee => effectiveGasPrice tx baseFee
    | .cosmos tx, baseFee => effectiveGasPrice tx baseFee
  isDynamicFee
    | .ethereum tx => isDynamicFee tx
    | .cosmos tx => isDynamicFee tx
  value
    | .ethereum tx => value tx
    | .cosmos tx => value tx
  blobVersionedHashes
    | .ethereum tx => blobVersionedHashes tx
    | .cosmos tx => blobVersionedHashes tx

end CosmosEnvelope

end RethCosmos.Primitives
