import RethCosmos.Authorization
import RethCosmos.Client.Agreement
import RethCosmos.Pool
import RethCosmos.Primitives.EnvelopeDecode
import RethCosmos.Rpc.TextFilter

/-!
# From the wallet to the EVM

A transaction passes from the client through the RPC handler, the decoder of the pool, the
pool entry and the Engine payload of a block into the transaction environment. No stage
changes it, and it goes all the way exactly if the wallet's signature verifies for the
bytes that the wallet was asked to sign.
-/

namespace RethCosmos

open Encoding Rust Upstream CosmosAuth Primitives
open Crypto (Suite)
open Client (Corresponds)

/-! ## What the client hands over -/

section

variable [Suite] {fromBase64 : Client.Text → Except Client.Error (List UInt8)}
  {op : Client.Operation} {node : Operation} {wallet : Client.Wallet} {doc : Client.StdSignDoc}
  {key : FixedBytes 33} {signature : FixedBytes 64}

/-- All that the client returns next to the account it took is computed from the operation, the
key and the signature. -/
theorem sign_eq_ok (hcorresponds : Corresponds op node) (hlimits : node.WithinLimits)
    (hdoc : Client.signDoc op = .ok doc) (hsigns : wallet.Signs fromBase64 doc key signature) :
    ∃ signed, Client.sign fromBase64 wallet op = .ok signed ∧
      signed.raw = Client.hexlify (encodeWire node key.data signature.data) ∧
      signed.hash =
        Client.hexlify (Suite.keccak256 (encodeWire node key.data signature.data)).data ∧
      signed.signBytes = Client.hexlify node.signBytes ∧
      signed.sender = Client.hexlify (keyAddress key.data).data := by
  have hbytes : Client.serializeSignDoc doc = node.signBytes := by
    rw [Except.ok.inj (hdoc.symm.trans (hcorresponds.signDoc_eq hlimits))]
    exact Client.serializeSignDoc_eq node
  obtain ⟨account, response, haccount, hresponse, hsame, hkey, hsignature⟩ := hsigns
  simp only [Client.sign, haccount, hdoc, hresponse, hsame, hkey, hsignature,
    hcorresponds.payload_eq hlimits, Client.encodeRlp_wireFields, Client.wire_text,
    Client.getBytes_hexlify, ok_bind, ne_eq, not_true_eq_false, if_false, pure_eq_ok, hbytes]
  exact ⟨_, rfl, rfl, rfl, rfl, rfl⟩

end

/-! ## What the handler passes on -/

theorem handle_hexlify {sendRawTransaction : List UInt8 → Except String B256} {free total : Nat}
    (hfree : 0 < free) (hroom : total < Rpc.maxPoolTotal) {node : Operation}
    (hlimits : node.WithinLimits) (key : FixedBytes 33) (signature : FixedBytes 64) :
    (Rpc.handle sendRawTransaction free total
      (.ok (Client.hexlify (encodeWire node key.data signature.data)))).sent =
        [encodeWire node key.data signature.data] := by
  rw [Rpc.handle_sent_iff, Client.hexlify,
    Rpc.prepare_digits_iff hfree hroom (Hex.decode_encode _)]
  refine ⟨?_, _, decodeWire_encodeWire hlimits key signature⟩
  have hhigh : Nat.digitChar (txType.toNat / 16) = '7' := rfl
  have hlow : Nat.digitChar (txType.toNat % 16) = 'e' := rfl
  rw [encodeWire, Hex.encode_cons, hhigh, hlow]
  simp only [List.cons_prefix_cons, List.nil_prefix, true_and]

/-! ## What the node makes of the bytes -/

section

variable {T : Type} [Suite] [Decodable2718 T]

theorem decode2718Exact_encodeWire {node : Operation} (hlimits : node.WithinLimits)
    (key : FixedBytes 33) (signature : FixedBytes 64) :
    decode2718Exact (encodeWire node key.data signature.data) =
      .ok (CosmosEnvelope.cosmos (T := T) (CosmosSigned.ofParts node key.data signature.data)) :=
  CosmosEnvelope.decode2718Exact_cosmos_eq_ok_iff.mpr
    ⟨node, key, signature, decodeWire_encodeWire hlimits key signature, rfl⟩

/-- The check of the transaction is the one on the parts it was made of. -/
theorem verify_ofParts_eq_ok_iff {node : Operation} {key : FixedBytes 33}
    {signature : FixedBytes 64} {a : Address} :
    (CosmosSigned.ofParts node key.data signature.data).verify = .ok a ↔
      node.Authorized key.data signature.data genesisHash ∧ a = node.sender := by
  have hsignature : signatureBytes (CosmosSigned.ofParts node key.data signature.data) =
      signature.data := by
    rw [signatureBytes, ← Signature.take_asBytes]
    exact Signature.take_asBytes_ofScalars signature.length_eq
  rw [verify_eq_ok_iff_authorized, hsignature]
  rfl

theorem convert_encodeWire [SignerRecoverable T] {node : Operation} {key : FixedBytes 33}
    {signature : FixedBytes 64}
    (hauthorized : node.Authorized key.data signature.data genesisHash) :
    convert (encodeWire node key.data signature.data) =
      .ok ⟨CosmosEnvelope.cosmos (T := T) (CosmosSigned.ofParts node key.data signature.data),
        node.sender⟩ := by
  have hsigner : recoverSigner (CosmosEnvelope.cosmos (T := T)
      (CosmosSigned.ofParts node key.data signature.data)) = .ok node.sender :=
    verify_ofParts_eq_ok_iff.mpr ⟨hauthorized, rfl⟩
  simp only [convert, decode2718Exact_encodeWire hauthorized.limits key signature,
    Outcome.ofExcept, Outcome.mapErr, Outcome.ok_bind, hsigner, Outcome.pure_eq_ok]

end

/-! ## All the way -/

open CosmosPoolTransaction in
/-- For every operation that the client has a payload for: the handler passes on the bytes of one
transaction, which has the operation, the hash and the sign bytes that the client reports. The
pool decodes it and recovers a signer exactly if the signature authorizes the operation, and
then its entry, the payload of a block with it and the transaction environment all have the
signed operation and the account that the client derived from the key. -/
theorem signed_transaction_reaches_the_evm_as_signed (T P S R : Type) [Suite]
    [TransactionAccessors T] [Encodable2718 T] [Decodable2718 T] [SignerRecoverable T]
    [TxHashRef T] [Encodable2718 P] [Decodable2718 P] [SignerRecoverable P]
    [EthereumPool T P S] [Inhabited R] [FromRecoveredTx T R]
    (fromBase64 : Client.Text → Except Client.Error (List UInt8)) (op : Client.Operation)
    (node : Operation) (text : Client.Text) (doc : Client.StdSignDoc) (wallet : Client.Wallet)
    (key : FixedBytes 33) (signature : FixedBytes 64)
    (hpayload : Client.payload op = .ok text) (hcorresponds : Corresponds op node)
    (hdoc : Client.signDoc op = .ok doc) (hsigns : wallet.Signs fromBase64 doc key signature) :
    ∃ (signed : Client.Signed) (tx : CosmosSigned),
      Client.sign fromBase64 wallet op = .ok signed ∧
      tx.operation = node ∧ signed.hash = Client.hexlify tx.hash.data ∧
      signed.signBytes = Client.hexlify tx.operation.signBytes ∧
      (∀ sendRawTransaction free total, 0 < free → total < 3072 →
        (Rpc.handle sendRawTransaction free total (.ok signed.raw)).sent = [tx.raw]) ∧
      decode2718Exact tx.raw = .ok (CosmosEnvelope.cosmos (T := P) tx) ∧
      (∀ a, recoverSigner (CosmosEnvelope.cosmos (T := P) tx) = .ok a ↔
        node.Authorized key.data signature.data genesisHash ∧ a = node.sender) ∧
      (node.Authorized key.data signature.data genesisHash →
        let entry : CosmosPoolTransaction T S := fromPooled (P := P) ⟨.cosmos tx, node.sender⟩
        entry.hash = tx.hash ∧ signed.sender = Client.hexlify entry.sender.data ∧
        payloadItems ⟨[encode2718 entry.intoConsensus.tx]⟩ =
          [.ok ⟨CosmosEnvelope.cosmos (T := T) tx, entry.sender⟩] ∧
        fromRecoveredTx entry.intoConsensus.tx entry.sender =
          .ok (cosmosTxEnv (R := R) node node.sender)) := by
  obtain ⟨other, hother, hlimits⟩ := Client.payload_sound hpayload
  -- only one node operation corresponds, and it is the one within the limits
  obtain rfl := hother.unique hcorresponds
  obtain ⟨signed, hsigned, hraw, hhash, hsignBytes, hsender⟩ :=
    sign_eq_ok hcorresponds hlimits hdoc hsigns
  refine ⟨signed, CosmosSigned.ofParts other key.data signature.data, hsigned, rfl, hhash,
    hsignBytes, ?_, decode2718Exact_encodeWire hlimits key signature,
    fun a => verify_ofParts_eq_ok_iff, ?_⟩
  · intro sendRawTransaction free total hfree hroom
    rw [hraw]
    exact handle_hexlify hfree hroom hlimits key signature
  · intro hauthorized entry
    have hentry : entry.inner.transaction =
        ⟨.cosmos (CosmosSigned.ofParts other key.data signature.data), other.sender⟩ :=
      EthPooledTransaction.new_transaction _ _
    -- the entry has the transaction for the account of its operation; all else follows from that
    have hconsensus : entry.intoConsensus = entry.inner.transaction := rfl
    have haccount : entry.sender = other.sender := congrArg RecoveredTx.signer hentry
    refine ⟨?_, ?_, ?_, ?_⟩
    · exact congrArg (fun tx => txHash tx.tx) hentry
    · rw [haccount, hauthorized.sender]
      exact hsender
    · rw [hconsensus, hentry, haccount]
      have hitem := convert_encodeWire (T := T) hauthorized
      exact congrArg (fun item => [item]) hitem
    · rw [hconsensus, hentry, haccount]
      exact fromRecoveredTx_cosmos rfl

namespace Evm.Sample

open Primitives.Sample

scoped instance : FromRecoveredTx Eth Unit where
  fromRecoveredTx tx caller :=
    .ok
      { txType := (ty tx).toBitVec, caller, gasLimit := gasLimit tx, gasPrice := maxFeePerGas tx
        kind := .call (FixedBytes.ofNat 20 0x2000), value := value tx, data := input tx
        nonce := nonce tx, chainId := chainId tx, gasPriorityFee := maxPriorityFeePerGas tx
        rest := () }

end Evm.Sample

open Primitives.Sample Evm.Sample in
/-- The fixture of the client, signed by its wallet, arrives with its account. -/
theorem sample_reaches_the_evm :
    ∃ tx : CosmosSigned, tx.operation = operation ∧
      payloadItems ⟨[tx.raw]⟩ = [.ok ⟨CosmosEnvelope.cosmos (T := Eth) tx, operation.sender⟩] ∧
      fromRecoveredTx (CosmosEnvelope.cosmos (T := Eth) tx) operation.sender =
        .ok (cosmosTxEnv (R := Unit) operation operation.sender) := by
  have hpayload := Client.sampleOperation_corresponds.payload_eq operation_withinLimits
  obtain ⟨signed, tx, _, hoperation, _, _, _, _, _, haccepted⟩ :=
    signed_transaction_reaches_the_evm_as_signed Eth PooledEth BlobTransactionSidecarVariant Unit
      Client.sampleFromBase64 Client.sampleOperation operation _ _ Client.sampleWallet publicKey
      scalars hpayload Client.sampleOperation_corresponds
      (Client.sampleOperation_corresponds.signDoc_eq operation_withinLimits)
      (Client.sampleWallet_signs _)
  obtain ⟨_, _, hitems, henv⟩ := haccepted operation_authorized
  exact ⟨tx, hoperation, hitems, henv⟩

end RethCosmos
