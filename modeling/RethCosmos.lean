import RethCosmos.Rust.Result
import RethCosmos.Rust.Cursor
import RethCosmos.Encoding.Codec
import RethCosmos.Encoding.BigEndian
import RethCosmos.Encoding.Bytes
import RethCosmos.Encoding.Rlp
import RethCosmos.Encoding.RlpLaws
import RethCosmos.Encoding.Base64
import RethCosmos.Encoding.Bech32
import RethCosmos.Encoding.Json
import RethCosmos.Encoding.Hex
import RethCosmos.Crypto.Secp256k1
import RethCosmos.CosmosAuth.Operation
import RethCosmos.CosmosAuth.Wire
import RethCosmos.CosmosAuth.SignDoc
import RethCosmos.CosmosAuth.Verify
import RethCosmos.Upstream.Eip2718
import RethCosmos.Upstream.Transaction
import RethCosmos.Upstream.CompactEnvelope
import RethCosmos.Primitives.TxType
import RethCosmos.Primitives.Cosmos
import RethCosmos.Primitives.Envelope
import RethCosmos.Primitives.EnvelopeDecode
import RethCosmos.Primitives.Storage
import RethCosmos.Primitives.Construction
import RethCosmos.Primitives.Sample
import RethCosmos.Primitives.StorageRoundTrip
import RethCosmos.Primitives.Delegation
import RethCosmos.Primitives.BlockBody
import RethCosmos.Consensus
import RethCosmos.Evm
import RethCosmos.Authorization
import RethCosmos.Client.Libraries
import RethCosmos.Client.Protocol
import RethCosmos.Client.Agreement
import RethCosmos.Concurrency.Interleaving
import RethCosmos.Rpc.Handler
import RethCosmos.Rpc.TextFilter
import RethCosmos.Rpc.Admission
import RethCosmos.Rust.Integer
import RethCosmos.Upstream.Accessors
import RethCosmos.Primitives.Accessors
import RethCosmos.Upstream.Pool
import RethCosmos.Upstream.Sidecar
import RethCosmos.Primitives.SampleBlob
import RethCosmos.Encoding.JsonObject
import RethCosmos.CosmosAuth.OperationJson
import RethCosmos.Primitives.RpcJson
import RethCosmos.Pool
import RethCosmos.Fees
import RethCosmos.Rust.Loop
import RethCosmos.Upstream.Block
import RethCosmos.Upstream.Execution
import RethCosmos.Payload.Built
import RethCosmos.Payload.Builder
import RethCosmos.Payload.Run
import RethCosmos.Payload.Gas
import RethCosmos.Payload.Build
import RethCosmos.Payload.Blobs
import RethCosmos.Payload.Size
import RethCosmos.Payload.Value
import RethCosmos.Rust.Stream
import RethCosmos.Payload.Trace
import RethCosmos.Payload.Stream
import RethCosmos.Rpc.Progress
import RethCosmos.Pipeline
import RethCosmos.Upstream.Engine
import RethCosmos.Payload.Engine
import RethCosmos.Payload.Replay
import RethCosmos.Primitives.TypeCodecs
import RethCosmos.Rust.Closure
import RethCosmos.Upstream.Receipt
import RethCosmos.Receipts
import RethCosmos.Primitives.EnvelopeJson
import RethCosmos.Upstream.RpcBlock
import RethCosmos.Rpc.Block
import RethCosmos.Payload.Job
import RethCosmos.Payload.Room
import RethCosmos.Conversions
import RethCosmos.Upstream.Environment
import RethCosmos.Payload.Environment
import RethCosmos.Launch
