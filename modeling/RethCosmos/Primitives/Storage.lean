import RethCosmos.Primitives.Envelope

/-!
# Database storage

The stored form of a Cosmos transaction is a list of payload and public key; the head of
the envelope stores the signature. A stored form that is not the one a transaction would
be written in stops the node.
-/

namespace RethCosmos.Primitives

open Encoding Rust Upstream CosmosAuth
open Crypto (Suite)

variable {T : Type}

instance [ToTxCompact T] : ToTxCompact (CosmosEnvelope T) where
  toTxCompact
    | .ethereum tx => toTxCompact tx
    | .cosmos tx =>
        let payload := tx.operation.payload
        Rlp.Header.encode ⟨true, Rlp.lengthBytes payload + Rlp.lengthBytes tx.publicKey⟩ ++
          Rlp.encodeBytes payload ++ Rlp.encodeBytes tx.publicKey

instance [Suite] [FromTxCompact T TxType] : FromTxCompact (CosmosEnvelope T) CosmosTxType where
  fromTxCompact buf ty signature := do
    if ty ≠ CosmosTxType.COSMOS then
      let standard ← Outcome.expectSome (TxType.tryFrom ty.ty) "stored Ethereum type"
      let (tx, rest) ← fromTxCompact buf standard signature
      return (.ethereum tx, rest)
    else
      Outcome.assert (signature.v = false) "corrupt Cosmos signature parity"
      let (header, buf) ←
        Outcome.expect (Rlp.Header.decode buf) "corrupt Cosmos storage header"
      Outcome.assert (header.list ∧ header.payloadLength ≤ maxRawTx ∧
        header.payloadLength ≤ buf.length) "corrupt Cosmos storage size"
      let fields := buf.take header.payloadLength
      let rest := buf.drop header.payloadLength
      let (payload, fields) ← Outcome.expect (Rlp.decodeBytes fields) "corrupt Cosmos payload"
      let (key, fields) ← Outcome.expect (Rlp.decodeBytes fields) "corrupt Cosmos key"
      Outcome.assert (fields = []) "trailing Cosmos storage fields"
      let op ← Outcome.expect (Operation.decodePayload payload) "corrupt Cosmos operation"
      let tx ← Outcome.expect (CosmosSigned.new op key (signature.asBytes.take 64))
        "corrupt Cosmos transaction"
      return (.cosmos tx, rest)

instance [Typed2718 T] [Envelope T TxType] : Envelope (CosmosEnvelope T) CosmosTxType where
  signature
    | .ethereum tx => Envelope.signature TxType tx
    | .cosmos tx => tx.signature
  txType tx := TransactionEnvelope.txType tx

/-- `Compact` of a transaction. -/
def toCompact [CompactLayout] [Transaction T] [Typed2718 T] [Envelope T TxType] [ToTxCompact T]
    (tx : CosmosEnvelope T) : Panicking (List UInt8 × Nat) :=
  CompactEnvelope.toCompact CosmosTxType tx

def fromCompact [CompactLayout] [Suite] [FromTxCompact T TxType] (buf : List UInt8) :
    Panicking (CosmosEnvelope T × List UInt8) :=
  CompactEnvelope.fromCompact CosmosTxType buf

/-! ## Stored Cosmos transactions -/

/-- The items of the stored list. -/
def storedFields (op : Operation) (publicKey : List UInt8) : List UInt8 :=
  Rlp.encodeBytes op.payload ++ Rlp.encodeBytes publicKey

theorem toTxCompact_cosmos [ToTxCompact T] (tx : CosmosSigned) :
    toTxCompact (CosmosEnvelope.cosmos (T := T) tx) =
      Rlp.encodeList (storedFields tx.operation tx.publicKey) := by
  simp only [toTxCompact, Rlp.encodeList, storedFields, List.length_append,
    Rlp.encodeBytes_length, List.append_assoc]

variable [Suite] [FromTxCompact T TxType]

/-- Every check passes on the stored form of a transaction, whatever follows it. -/
theorem fromTxCompact_toTxCompact [ToTxCompact T] {tx : CosmosSigned} (h : tx.Canonical)
    (rest : List UInt8) :
    fromTxCompact (toTxCompact (CosmosEnvelope.cosmos (T := T) tx) ++ rest) CosmosTxType.COSMOS
      tx.signature = .ok (CosmosEnvelope.cosmos (T := T) tx, rest) := by
  have hpayload := h.limits.payload_length_le
  have hitem := @Rlp.lengthBytes_le tx.operation.payload (by omega)
  have hkeyItem := @Rlp.lengthBytes_le tx.publicKey (by rw [h.publicKey_length]; omega)
  rw [h.publicKey_length] at hkeyItem
  have hlength : (storedFields tx.operation tx.publicKey).length ≤ 33003 := by
    simp only [storedFields, List.length_append, Rlp.encodeBytes_length]
    omega
  have hheader := Rlp.decode_encodeList (hlength.trans_lt (by norm_num)) rest
  have hsize : (storedFields tx.operation tx.publicKey).length ≤ maxRawTx :=
    hlength.trans (by decide)
  have hread := (Rlp.bytes_exact).complete tx.operation.payload (Rlp.encodeBytes tx.publicKey)
    (hpayload.trans_lt (by norm_num))
  have hkey := (Rlp.bytes_exact).complete tx.publicKey []
    (by rw [h.publicKey_length]; norm_num)
  rw [List.append_nil] at hkey
  rw [toTxCompact_cosmos]
  simp only [fromTxCompact, ne_eq, not_true_eq_false, if_false, Outcome.assert, h.parity, if_true,
    Outcome.ok_bind, hheader, Outcome.expect, List.length_append, Nat.le_add_right, and_true,
    hsize, List.take_left, List.drop_left]
  simp only [storedFields, hread, hkey, Outcome.ok_bind, if_true,
    h.limits.decodePayload_payload, h.new_eq, Outcome.pure_eq_ok]

/-- A stored form that is accepted is the one its transaction is written in. -/
theorem fromTxCompact_sound {buf rest : List UInt8} {signature : Signature}
    {tx : CosmosEnvelope T}
    (hread : fromTxCompact buf CosmosTxType.COSMOS signature = .ok (tx, rest)) :
    ∃ op publicKey, signature.v = false ∧
      CosmosSigned.new op publicKey (signature.asBytes.take 64) =
        .ok (CosmosSigned.ofParts op publicKey (signature.asBytes.take 64)) ∧
      tx = .cosmos (CosmosSigned.ofParts op publicKey (signature.asBytes.take 64)) ∧
      buf = Rlp.encodeList (storedFields op publicKey) ++ rest := by
  simp only [fromTxCompact, ne_eq, not_true_eq_false, if_false, Outcome.bind_eq_ok_iff,
    Outcome.assert_eq_ok_iff, exists_const, Outcome.expect_eq_ok_iff, Outcome.pure_eq_ok,
    Outcome.ok.injEq, Prod.mk.injEq] at hread
  obtain ⟨hparity, ⟨⟨list, n⟩, body⟩, hheader, ⟨hlist, _, hlength⟩, ⟨payload, fields⟩, hpayload,
    ⟨key, fields'⟩, hkey, hend, op, hop, signed, hnew, rfl, rfl⟩ := hread
  simp only at hlist hlength hpayload hkey hend hop hnew ⊢
  subst hlist hend
  -- each part that was read has one encoding, so the buffer is put together again
  obtain ⟨_, rfl⟩ := Operation.decodePayload_sound hop
  obtain ⟨hlimits, hkeyLength, hscalars, rfl⟩ := CosmosSigned.new_eq_ok_iff.mp hnew
  obtain ⟨_, hfields⟩ := Rlp.bytes_exact.sound hpayload
  obtain ⟨_, hfields'⟩ := Rlp.bytes_exact.sound hkey
  obtain ⟨_, _, hbuf⟩ := Rlp.decode_list_sound hheader
  rw [List.append_nil] at hfields'
  refine ⟨op, key, hparity, hnew, rfl, ?_⟩
  rw [hbuf, hfields, hfields']
  rfl

end RethCosmos.Primitives
