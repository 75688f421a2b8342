import RethCosmos.Upstream.Transaction

/-!
# Compact storage of envelopes

One generic function stores every transaction envelope: a head with the signature, the
two-bit identifier of the type and the compression flag, then the type's extension and
the transaction itself, compressed when the calldata is long. The bytes of the head and
the compression are parameters.
-/

namespace RethCosmos.Upstream

open Encoding Rust

/-- `Compact` of a type tag: the bytes written, and an identifier of two bits. -/
class CompactTag (τ : Type) where
  toCompact : τ → List UInt8 × Nat
  fromCompact : List UInt8 → Nat → Panicking (τ × List UInt8)

class TransactionEnvelope (α τ : Type) where
  txType : α → Panicking τ

class ToTxCompact (α : Type) where
  toTxCompact : α → List UInt8

class FromTxCompact (α τ : Type) where
  fromTxCompact : List UInt8 → τ → Signature → Panicking (α × List UInt8)

class Envelope (α τ : Type) where
  signature : α → Signature
  txType : α → Panicking τ

/-- The bytes around the stored transaction. -/
class CompactLayout where
  writeHead : Signature → Nat → Bool → List UInt8
  readHead : List UInt8 → Panicking (Signature × Nat × Bool × List UInt8)
  compress : List UInt8 → List UInt8
  decompress : List UInt8 → Panicking (List UInt8)

/-- The head stores its parts, and compression loses nothing. -/
structure CompactLayout.Lossless [CompactLayout] : Prop where
  readHead_writeHead : ∀ signature identifier compressed rest, identifier < 4 →
    readHead (writeHead signature identifier compressed ++ rest) =
      .ok (signature, identifier, compressed, rest)
  decompress_compress : ∀ bytes, decompress (compress bytes) = .ok bytes

export ToTxCompact (toTxCompact)
export FromTxCompact (fromTxCompact)

namespace CompactEnvelope

variable {α τ : Type} [CompactLayout]

def isCompressed [Transaction α] (tx : α) : Bool := 32 ≤ (input tx).length

/-- Type extension and transaction, as they are before compression. -/
def body [CompactTag τ] [ToTxCompact α] (tx : α) (ty : τ) : List UInt8 :=
  (CompactTag.toCompact ty).1 ++ toTxCompact tx

/-- All bytes of an envelope of a given type. -/
def store [Transaction α] [Envelope α τ] [CompactTag τ] [ToTxCompact α] (tx : α) (ty : τ) :
    List UInt8 :=
  CompactLayout.writeHead (Envelope.signature τ tx) (CompactTag.toCompact ty).2
    (isCompressed tx) ++
      if isCompressed tx then CompactLayout.compress (body tx ty) else body tx ty

/-- The bytes written and their number. -/
def toCompact (τ : Type) [Transaction α] [Envelope α τ] [CompactTag τ] [ToTxCompact α] (tx : α) :
    Panicking (List UInt8 × Nat) := do
  let ty : τ ← Envelope.txType tx
  return (store tx ty, (store tx ty).length)

/-- A compressed transaction leaves its caller everything behind the head. -/
def fromCompact (τ : Type) [CompactTag τ] [FromTxCompact α τ] (buf : List UInt8) :
    Panicking (α × List UInt8) := do
  let (signature, identifier, compressed, buf) ← CompactLayout.readHead buf
  if compressed then
    let decompressed ← CompactLayout.decompress buf
    let ((ty : τ), txBuf) ← CompactTag.fromCompact decompressed identifier
    let (tx, _) ← fromTxCompact txBuf ty signature
    return (tx, buf)
  else
    let ((ty : τ), buf) ← CompactTag.fromCompact buf identifier
    fromTxCompact buf ty signature

/-! ## Wrapped envelopes -/

section Wrapped

variable {β σ : Type} [CompactTag τ] [CompactTag σ]

/-- An envelope that answers as a wrapped one does is stored in the same bytes. -/
theorem toCompact_eq_of_wrapped [Transaction α] [Envelope α τ] [ToTxCompact α] [Transaction β]
    [Envelope β σ] [ToTxCompact β] {tx : α} {wrapped : β} {ty : τ} {ty' : σ}
    (htype : Envelope.txType tx = .ok ty) (htype' : Envelope.txType wrapped = .ok ty')
    (htag : CompactTag.toCompact ty' = CompactTag.toCompact ty)
    (hsignature : Envelope.signature σ wrapped = Envelope.signature τ tx)
    (hinput : input wrapped = input tx) (hbody : toTxCompact wrapped = toTxCompact tx) :
    toCompact σ wrapped = toCompact τ tx := by
  have hcompressed : isCompressed wrapped = isCompressed tx := by
    rw [isCompressed, isCompressed, hinput]
  have hstore : store wrapped ty' = store tx ty := by
    simp only [store, body, hcompressed, htag, hsignature, hbody]
  simp only [toCompact, htype, htype', Outcome.ok_bind, hstore]

/-- Where an envelope is read, one that reads the same tags and transactions as wrapped
ones is read too, and leaves the same bytes. -/
theorem fromCompact_of_wrapped [FromTxCompact α τ] [FromTxCompact β σ] {wrap : α → β}
    {wrapType : τ → σ} {buf rest : List UInt8} {tx : α}
    (htag : ∀ {buf identifier rest} {ty : τ},
      CompactTag.fromCompact buf identifier = .ok (ty, rest) →
        CompactTag.fromCompact buf identifier = .ok (wrapType ty, rest))
    (htx : ∀ {buf signature rest} {ty : τ} {tx : α},
      fromTxCompact buf ty signature = .ok (tx, rest) →
        fromTxCompact buf (wrapType ty) signature = .ok (wrap tx, rest))
    (hread : fromCompact τ buf = .ok (tx, rest)) : fromCompact σ buf = .ok (wrap tx, rest) := by
  simp only [fromCompact, Outcome.bind_eq_ok_iff] at hread ⊢
  obtain ⟨⟨signature, identifier, compressed, buf⟩, hhead, hread⟩ := hread
  refine ⟨_, hhead, ?_⟩
  cases compressed with
  | false =>
      simp only [Bool.false_eq_true, if_false, Outcome.bind_eq_ok_iff] at hread ⊢
      obtain ⟨⟨ty, left⟩, hty, hread⟩ := hread
      exact ⟨_, htag hty, htx hread⟩
  | true =>
      simp only [if_true, Outcome.bind_eq_ok_iff] at hread ⊢
      obtain ⟨decompressed, hdecompressed, ⟨ty, txBuf⟩, hty, ⟨tx', left⟩, hread, hdone⟩ := hread
      refine ⟨_, hdecompressed, _, htag hty, _, htx hread, ?_⟩
      simp only [Outcome.pure_eq_ok, Outcome.ok.injEq, Prod.mk.injEq] at hdone ⊢
      obtain ⟨rfl, rfl⟩ := hdone
      exact ⟨rfl, rfl⟩

end Wrapped

/-! ## Round trip -/

/-- An envelope whose tag and transaction are read back is read back. -/
theorem fromCompact_store [Transaction α] [Envelope α τ] [CompactTag τ] [ToTxCompact α]
    [FromTxCompact α τ] (hlayout : CompactLayout.Lossless) {tx : α} {ty : τ}
    (hidentifier : (CompactTag.toCompact ty).2 < 4)
    (htag : ∀ rest, CompactTag.fromCompact ((CompactTag.toCompact ty).1 ++ rest)
      (CompactTag.toCompact ty).2 = .ok (ty, rest))
    (htx : ∀ rest, fromTxCompact (toTxCompact tx ++ rest) ty (Envelope.signature τ tx) =
      .ok (tx, rest)) :
    fromCompact τ (store tx ty) =
      .ok (tx, if isCompressed tx then CompactLayout.compress (body tx ty) else []) := by
  have hbody := htx []
  rw [List.append_nil] at hbody
  simp only [fromCompact, store, hlayout.readHead_writeHead _ _ _ _ hidentifier, Outcome.ok_bind]
  cases isCompressed tx with
  | false => simp only [Bool.false_eq_true, if_false, body, htag, Outcome.ok_bind, hbody]
  | true =>
      simp only [if_true, hlayout.decompress_compress, Outcome.ok_bind, body, htag, hbody,
        Outcome.pure_eq_ok]

end CompactEnvelope

/-! ## The standard tag -/

/-- Identifiers 0, 1 and 2 stand for the first three types, 3 for a further byte. -/
instance : CompactTag TxType where
  toCompact ty := if ty.toU8 < 3 then ([], ty.toU8.toNat) else ([ty.toU8], 3)
  fromCompact buf identifier := do
    if identifier = 3 then
      let extended ← Outcome.index buf 0
      match TxType.tryFrom extended with
      | some ty =>
          if ty.toU8 < 3 then .panic "Unsupported TxType identifier"
          else return (ty, buf.drop 1)
      | none => .panic "Unsupported TxType identifier"
    else
      match TxType.tryFrom (UInt8.ofNat identifier) with
      | some ty =>
          if identifier < 3 then return (ty, buf)
          else .panic "Unknown identifier for TxType"
      | none => .panic "Unknown identifier for TxType"

end RethCosmos.Upstream
