import RethCosmos.Primitives.Sample
import RethCosmos.Upstream.Pool
import RethCosmos.Upstream.Sidecar

/-!
# Sample blob transaction

A legacy transfer next to a blob transaction, in consensus and in pooled form, with the
upstream functions as they act on these two.
-/

namespace RethCosmos.Primitives.Sample

open Encoding Rust Upstream CosmosAuth

/-- The consensus forms. -/
inductive Eth
  | transfer
  | blob
  deriving DecidableEq

/-- The pooled forms. -/
inductive PooledEth
  | transfer
  | blob (sidecar : BlobTransactionSidecarVariant)
  deriving DecidableEq

def versionedHash : B256 :=
  FixedBytes.ofNat 32 0x010657f37554c781402a22917dee2f75def7ab966d7b770905398eba3c444014

/-- One blob of zeros, with the commitment and the proof of the zero polynomial. -/
def sidecar : BlobTransactionSidecarVariant :=
  .eip4844
    { blobs := [FixedBytes.ofNat 131072 0]
      commitments := [FixedBytes.ofNat 48 (0xc0 * 2 ^ 376)]
      proofs := [FixedBytes.ofNat 48 (0xc0 * 2 ^ 376)] }

namespace Eth

/-- The fields of the blob transaction and its signature. -/
def blobItems : List UInt8 :=
  Rlp.encodeUint (366036 : U64) ++ Rlp.encodeUint (0 : U64) ++
  Rlp.encodeUint (100000000 : U128) ++ Rlp.encodeUint (2000000000 : U128) ++
  Rlp.encodeUint (21000 : U64) ++ Rlp.encodeFixed (FixedBytes.ofNat 20 0x2000) ++
  Rlp.encodeUint (0 : U256) ++ Rlp.encodeBytes [] ++ Rlp.encodeList [] ++
  Rlp.encodeUint (1 : U128) ++ Rlp.encodeList (Rlp.encodeFixed versionedHash) ++
  Rlp.encodeUint (0 : U8) ++ Rlp.encodeUint (BitVec.ofNat 256 scalarR) ++
  Rlp.encodeUint (BitVec.ofNat 256 scalarS)

def raw : Eth → List UInt8
  | transfer => Legacy.raw
  | blob => 0x03 :: Rlp.encodeList blobItems

instance : Encodable2718 Eth where
  ty
    | transfer => 0
    | blob => 3
  encode2718Len tx := tx.raw.length
  encode2718 := raw

instance : TxHashRef Eth where
  txHash
    | transfer => txHash Legacy.transfer
    | blob =>
        FixedBytes.ofNat 32 0x6c1d3f1e6f1e0a1b5f2d8c7e9b4a3d2c1f0e9d8c7b6a594837261504f3e2d1c0

instance : TransactionAccessors Eth where
  input _ := ⟨[], Nat.two_pow_pos 63⟩
  chainId
    | transfer => some 1
    | blob => some 366036
  nonce
    | transfer => 9
    | blob => 0
  gasLimit _ := 21000
  gasPrice
    | transfer => some 20000000000
    | blob => none
  maxFeePerGas
    | transfer => 20000000000
    | blob => 2000000000
  maxPriorityFeePerGas
    | transfer => none
    | blob => some 100000000
  maxFeePerBlobGas
    | transfer => none
    | blob => some 1
  priorityFeeOrPrice
    | transfer => 20000000000
    | blob => 100000000
  effectiveGasPrice
    | transfer, _ => 20000000000
    | blob, baseFee => calcEffectiveGasPrice 2000000000 100000000 baseFee
  isDynamicFee
    | transfer => false
    | blob => true
  value
    | transfer => 1000000000000000000
    | blob => 0
  blobVersionedHashes
    | transfer => none
    | blob => some [versionedHash]

end Eth

namespace PooledEth

/-- Blobs, commitments and proofs follow the transaction; the variant after Osaka names its
version first. -/
def sidecarItems : BlobTransactionSidecarVariant → List UInt8
  | .eip4844 sidecar =>
      Rlp.encodeList (sidecar.blobs.flatMap Rlp.encodeFixed) ++
      Rlp.encodeList (sidecar.commitments.flatMap Rlp.encodeFixed) ++
      Rlp.encodeList (sidecar.proofs.flatMap Rlp.encodeFixed)
  | .eip7594 sidecar =>
      Rlp.encodeUint (1 : U8) ++
      Rlp.encodeList (sidecar.blobs.flatMap Rlp.encodeFixed) ++
      Rlp.encodeList (sidecar.commitments.flatMap Rlp.encodeFixed) ++
      Rlp.encodeList (sidecar.cellProofs.flatMap Rlp.encodeFixed)

def raw : PooledEth → List UInt8
  | transfer => Legacy.raw
  | blob sidecar => 0x03 :: Rlp.encodeList (Rlp.encodeList Eth.blobItems ++ sidecarItems sidecar)

def toEth : PooledEth → Eth
  | transfer => .transfer
  | blob _ => .blob

def sidecar : PooledEth → Option BlobTransactionSidecarVariant
  | transfer => none
  | blob sidecar => some sidecar

instance : Encodable2718 PooledEth where
  ty tx := ty tx.toEth
  encode2718Len tx := tx.raw.length
  encode2718 := raw

instance : TxHashRef PooledEth where
  txHash tx := txHash tx.toEth

end PooledEth

instance : EthereumPool Eth PooledEth BlobTransactionSidecarVariant where
  sidecar := PooledEth.sidecar
  intoConsensus := PooledEth.toEth
  fromPooled tx :=
    let pooled : EthPooledTransaction Eth BlobTransactionSidecarVariant :=
      EthPooledTransaction.new (tx.map PooledEth.toEth) (encode2718Len tx.tx)
    match tx.tx.sidecar with
    | some sidecar => { pooled with blobSidecar := .present sidecar }
    | none => { pooled with blobSidecar := .none }
  tryIntoPooled
    | .transfer => .ok .transfer
    | .blob => .error ⟨.blob, "pooled variant of an EIP-4844 transaction needs its sidecar"⟩
  tryIntoPooledEip4844
    | .transfer, _ => .error ⟨.transfer, "expected EIP-4844 transaction"⟩
    | .blob, sidecar => .ok (.blob sidecar)

theorem ethereumPool_documented :
    EthereumPool.Documented Eth PooledEth BlobTransactionSidecarVariant where
  sidecar_isSome_iff p := by
    cases p with
    | transfer => decide
    | blob sidecar => exact ⟨fun _ => rfl, fun _ => rfl⟩
  ty_intoConsensus _ := rfl
  txHash_intoConsensus _ := rfl
  fromPooled_transaction p := by
    obtain ⟨tx, signer⟩ := p
    cases tx with
    | transfer => exact EthPooledTransaction.new_transaction _ _
    | blob sidecar => exact EthPooledTransaction.new_transaction _ _
  fromPooled_blobSidecar p := by
    obtain ⟨tx, signer⟩ := p
    cases tx with
    | transfer => rfl
    | blob sidecar => rfl
  attach p blobs hsidecar := by
    cases p with
    | transfer => exact absurd hsidecar (by simp [EthereumPool.sidecar, PooledEth.sidecar])
    | blob sidecar =>
        obtain rfl : sidecar = blobs := Option.some.inj hsidecar
        rfl
  attach_only_blobs t blobs hother := by
    cases t with
    | transfer => exact ⟨_, rfl⟩
    | blob => exact absurd hother (by decide)
  pooled_of_consensus p hother := by
    cases p with
    | transfer => rfl
    | blob sidecar =>
        have hblobs : isEip4844 (PooledEth.blob sidecar) = true := rfl
        rw [hblobs] at hother
        exact absurd hother (by decide)
  pooled_unless_blobs t hother := by
    cases t with
    | transfer => exact ⟨_, rfl⟩
    | blob => exact absurd hother (by decide)
  blobs_handed_back t hblobs := by
    cases t with
    | transfer => exact absurd hblobs (by decide)
    | blob => exact ⟨_, rfl, rfl⟩

/-! ## Readers -/

/-- The bytes of one transaction in front of a buffer. -/
def readRaw {α : Type} (raw : List UInt8) (tx : α) (e : Eip2718Error) : Cursor Eip2718Error α :=
  fun buf => if raw.isPrefixOf buf then (.ok tx, buf.drop raw.length) else (.error e, buf)

namespace Eth

instance : Decodable2718 Eth where
  typedDecode ty :=
    if ty = 3 then readRaw (raw .blob).tail .blob (.rlpError .inputTooShort)
    else Cursor.fail (.unexpectedType ty)
  fallbackDecode := readRaw (raw .transfer) .transfer (.rlpError .inputTooShort)

instance : SignerRecoverable Eth where
  recoverSigner _ := .ok Legacy.sender
  recoverSignerUnchecked _ := .ok Legacy.sender
  recoverWithBuf _ buf := (.ok Legacy.sender, buf)
  recoverUncheckedWithBuf _ buf := (.ok Legacy.sender, buf)

end Eth

namespace PooledEth

/-- The sidecar is the sample one. -/
instance : Decodable2718 PooledEth where
  typedDecode ty :=
    if ty = 3 then
      readRaw (raw (.blob Sample.sidecar)).tail (.blob Sample.sidecar) (.rlpError .inputTooShort)
    else Cursor.fail (.unexpectedType ty)
  fallbackDecode := readRaw (raw .transfer) .transfer (.rlpError .inputTooShort)

instance : SignerRecoverable PooledEth where
  recoverSigner tx := recoverSigner tx.toEth
  recoverSignerUnchecked tx := recoverSignerUnchecked tx.toEth
  recoverWithBuf tx buf := recoverWithBuf tx.toEth buf
  recoverUncheckedWithBuf tx buf := recoverUncheckedWithBuf tx.toEth buf

end PooledEth

/-! ## An authorized transaction -/

theorem operation_authorized :
    operation.Authorized publicKey.data scalars.data genesisHash where
  limits := operation_withinLimits
  domain := ⟨rfl, rfl⟩
  key := ⟨publicKey.length_eq, by decide +kernel, rfl⟩
  sender := rfl
  signature := by
    refine ⟨(), ⟨scalarR, scalarS, ?_, ?_, ?_, ?_⟩, rfl, scalars.length_eq, ?_, ?_, ?_, rfl⟩ <;>
      decide +kernel

end RethCosmos.Primitives.Sample
