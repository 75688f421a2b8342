import Mathlib.Tactic.IntervalCases
import RethCosmos.Primitives.Envelope

/-!
# Sample transactions

One stored Cosmos transaction and one legacy Ethereum transaction, with the upstream
functions as they act on these two. The layout of the stored head is the one found in
existing databases.
-/

namespace RethCosmos.Primitives.Sample

open Encoding Rust Upstream CosmosAuth
open Crypto (Suite)

/-! ## A Cosmos transaction -/

def operation : Operation where
  chainId := 366036
  genesisHash := genesisHash
  sender := FixedBytes.ofNat 20 0x751e76e8199196d454941c45d1b3a323f1433bd6
  nonce := 0
  «to» := FixedBytes.ofNat 20 0x2000
  value := 123456789
  input := ⟨[], by decide⟩
  gasLimit := 21000
  maxFeePerGas := 2000000000
  maxPriorityFeePerGas := 100000000

def publicKey : FixedBytes 33 :=
  FixedBytes.ofNat 33 0x0279be667ef9dcbbac55a06295ce870b07029bfcdb2dce28d959f2815b16f81798

def scalarR : Nat := 0x59d21bca6d151ea667c5041676cfd4233271f4b72349155c4656d58fb8666be4

def scalarS : Nat := 0x09bd0685e00d1555062334b62634e18d03de4e8f28b0fc450b0102662ea9eaaf

def scalars : FixedBytes 64 := FixedBytes.ofNat 64 (scalarR * 2 ^ 256 + scalarS)

/-- Hashes and curve operations, at the bytes this transaction gives them. -/
scoped instance suite : Suite where
  VerifyingKey := Unit
  sha256 := fun _ =>
    FixedBytes.ofNat 32 0x0f715baf5d4c2ed329785cef29e562f73488c8a2bb9dbc5700b361d54b9b0554
  ripemd160 := fun _ => FixedBytes.ofNat 20 0x751e76e8199196d454941c45d1b3a323f1433bd6
  keccak256 := fun _ =>
    FixedBytes.ofNat 32 0x0f17e00c8b6e4ab6c606e722b29dc9c04261957e774718ad996b8ac639af9942
  fromSec1Bytes := fun _ => some ()
  verify := fun _ _ _ => true

theorem operation_withinLimits : operation.WithinLimits where
  input_length_le := by decide
  gasLimit_le := by decide
  le_gasLimit := by decide
  nonce_ne_max := by decide
  maxPriorityFee_le := by decide

/-- The stored transaction. -/
def signed : CosmosSigned := CosmosSigned.ofParts operation publicKey.data scalars.data

theorem new_signed : CosmosSigned.new operation publicKey.data scalars.data = .ok signed :=
  CosmosSigned.new_ofParts operation_withinLimits publicKey.length_eq scalars.length_eq

/-! ## An Ethereum transaction -/

/-- A type of one value, a legacy transaction. -/
inductive Legacy
  | transfer
  deriving DecidableEq

namespace Legacy

def sender : Address := FixedBytes.ofNat 20 0x9d8a62f656a8d1615c1294fd71e9cfb3e4855a4f

/-- Nonce, gas price, gas, recipient, value, data, `v`, `r`, `s`. -/
def raw : List UInt8 :=
  [0xf8, 0x6c, 0x09, 0x85, 0x04, 0xa8, 0x17, 0xc8, 0x00, 0x82, 0x52, 0x08, 0x94, 0x35,
    0x35, 0x35, 0x35, 0x35, 0x35, 0x35, 0x35, 0x35, 0x35, 0x35, 0x35, 0x35, 0x35, 0x35,
    0x35, 0x35, 0x35, 0x35, 0x35, 0x88, 0x0d, 0xe0, 0xb6, 0xb3, 0xa7, 0x64, 0x00, 0x00,
    0x80, 0x25, 0xa0, 0x28, 0xef, 0x61, 0x34, 0x0b, 0xd9, 0x39, 0xbc, 0x21, 0x95, 0xfe,
    0x53, 0x75, 0x67, 0x86, 0x60, 0x03, 0xe1, 0xa1, 0x5d, 0x3c, 0x71, 0xff, 0x63, 0xe1,
    0x59, 0x06, 0x20, 0xaa, 0x63, 0x62, 0x76, 0xa0, 0x67, 0xcb, 0xe9, 0xd8, 0x99, 0x7f,
    0x76, 0x1a, 0xec, 0xb7, 0x03, 0x30, 0x4b, 0x38, 0x00, 0xcc, 0xf5, 0x55, 0xc9, 0xf3,
    0xdc, 0x64, 0x21, 0x4b, 0x29, 0x7f, 0xb1, 0x96, 0x6a, 0x3b, 0x6d, 0x83]

instance : Upstream.Transaction Legacy where
  input _ := ⟨[], by decide⟩

instance : TxHashRef Legacy where
  txHash _ :=
    FixedBytes.ofNat 32 0x33469b22e9f636356c4160a87eb19df52b7412e8eac32a4a55ffe88ea8350788

instance : SignerRecoverable Legacy where
  recoverSigner _ := .ok sender
  recoverSignerUnchecked _ := .ok sender
  recoverWithBuf _ buf := (.ok sender, buf)
  recoverUncheckedWithBuf _ buf := (.ok sender, buf)

instance : Encodable2718 Legacy where
  ty _ := 0
  encode2718Len _ := 110
  encode2718 _ := raw

instance : Decodable2718 Legacy where
  typedDecode ty := Cursor.fail (.unexpectedType ty)
  fallbackDecode := fun buf =>
    if raw.isPrefixOf buf then (.ok .transfer, buf.drop 110)
    else (.error (.rlpError .inputTooShort), buf)

instance : RlpEncodable Legacy where
  encode := networkEncode
  length := networkLen

instance [LengthCheck] : RlpDecodable Legacy where
  decode := networkDecode.mapError Eip2718Error.toRlp

instance : ToTxCompact Legacy where
  toTxCompact _ := raw

instance : FromTxCompact Legacy TxType where
  fromTxCompact buf _ _ := .ok (.transfer, buf.drop 110)

/-- The signature, with the parity that the replay-protected `v` encodes. -/
instance : Envelope Legacy TxType where
  signature _ :=
    ⟨0x28ef61340bd939bc2195fe537567866003e1a15d3c71ff63e1590620aa636276,
      0x67cbe9d8997f761aecb703304b3800ccf555c9f3dc64214b297fb1966a3b6d83, false⟩
  txType _ := .ok .legacy

end Legacy

/-- A length that is not the announced one matters behind a string header only. -/
scoped instance lengthCheck : LengthCheck where
  reject
    | [] => false
    | b :: _ => 0x80 < b

/-! ## The stored head -/

/-- A byte of flags (parity, identifier, compression), then both scalars with the least
significant byte first. Short calldata is never compressed, so no bytes are given to the
compressor. -/
scoped instance layout : CompactLayout where
  writeHead signature identifier compressed :=
    UInt8.ofNat (signature.v.toNat + 2 * identifier + 8 * compressed.toNat) ::
      ((beBytes 32 signature.r.toNat).reverse ++ (beBytes 32 signature.s.toNat).reverse)
  readHead
    | [] => .panic "buffer is empty"
    | flags :: rest =>
        if rest.length < 64 then .panic "buffer too short for a signature"
        else .ok
          (⟨fromBeSlice (rest.take 32).reverse, fromBeSlice ((rest.drop 32).take 32).reverse,
            flags.toNat % 2 = 1⟩, flags.toNat / 2 % 4, flags.toNat / 8 ≠ 0, rest.drop 64)
  compress := id
  decompress := .ok

theorem flags_read {v compressed : Bool} {identifier : Nat} (hidentifier : identifier < 4) :
    let flags := (UInt8.ofNat (v.toNat + 2 * identifier + 8 * compressed.toNat)).toNat
    decide (flags % 2 = 1) = v ∧ flags / 2 % 4 = identifier ∧
      decide (flags / 8 ≠ 0) = compressed := by
  interval_cases identifier <;> cases v <;> cases compressed <;> decide

theorem layout_lossless : CompactLayout.Lossless := by
  refine ⟨?_, fun _ => rfl⟩
  intro signature identifier compressed rest hidentifier
  rcases signature with ⟨r, s, v⟩
  obtain ⟨hparity, hread, hcompressed⟩ :=
    @flags_read v compressed identifier hidentifier
  have hscalar : ∀ x : BitVec 256, fromBeSlice (beBytes 32 x.toNat) = x := fun x => by
    rw [fromBeSlice, ofBe_beBytes (Signature.scalar_lt x), BitVec.ofNat_toNat, BitVec.setWidth_eq]
  have hr : (beBytes 32 r.toNat).reverse.length = 32 := by simp
  have hs : (beBytes 32 s.toNat).reverse.length = 32 := by simp
  have hlength : ¬ ((beBytes 32 r.toNat).reverse ++ (beBytes 32 s.toNat).reverse ++ rest).length
      < 64 := by
    simp only [List.length_append, hr, hs]
    omega
  have hboth : ((beBytes 32 r.toNat).reverse ++ (beBytes 32 s.toNat).reverse).length = 64 := by
    rw [List.length_append, hr, hs]
  simp only [CompactLayout.writeHead, CompactLayout.readHead, List.cons_append, hlength, if_false,
    List.drop_left' hboth]
  simp only [List.append_assoc, List.take_left' hr, List.drop_left' hr, List.take_left' hs,
    List.reverse_reverse, hscalar, hparity, hread, hcompressed]

end RethCosmos.Primitives.Sample
