import RethCosmos.Encoding.RlpLaws
import RethCosmos.Rust.Cursor

/-!
# Typed transaction envelopes

The encoding traits a transaction type implements, and the functions the traits
provide on top of them: the type byte dispatch of a decoder, and the network form,
in which everything but a legacy transaction is wrapped in a string header.
-/

namespace RethCosmos.Upstream

open Encoding Rust

inductive Eip2718Error
  | rlpError (e : Rlp.Error)
  | unexpectedType (ty : UInt8)
  deriving DecidableEq, Repr

def Eip2718Error.toRlp : Eip2718Error → Rlp.Error
  | .rlpError e => e
  | .unexpectedType _ => .custom "Unexpected type flag"

class Typed2718 (α : Type) where
  ty : α → UInt8

/-- `encode2718` is the bytes that are written. -/
class Encodable2718 (α : Type) extends Typed2718 α where
  encode2718Len : α → Nat
  encode2718 : α → List UInt8

class Decodable2718 (α : Type) where
  typedDecode : UInt8 → Cursor Eip2718Error α
  fallbackDecode : Cursor Eip2718Error α

/-- The RLP `Encodable`. -/
class RlpEncodable (α : Type) where
  encode : α → List UInt8
  length : α → Nat

/-- The RLP `Decodable`. -/
class RlpDecodable (α : Type) where
  decode : Cursor Rlp.Error α

/-- Whether a network transaction of another length than its header announces is an
error, at the bytes behind the header. -/
class LengthCheck where
  reject : List UInt8 → Bool

export Typed2718 (ty)
export Encodable2718 (encode2718 encode2718Len)
export Decodable2718 (typedDecode fallbackDecode)

variable {α β : Type}

/-! ## Provided functions -/

section Encoding

variable [Encodable2718 α]

def isLegacy (tx : α) : Bool := ty tx = 0

def networkLen (tx : α) : Nat :=
  if isLegacy tx then encode2718Len tx
  else encode2718Len tx + Rlp.Header.length ⟨false, encode2718Len tx⟩

/-- A string header for anything but a legacy transaction, then the transaction. -/
def networkEncode (tx : α) : List UInt8 :=
  if isLegacy tx then encode2718 tx
  else Rlp.Header.encode ⟨false, encode2718Len tx⟩ ++ encode2718 tx

end Encoding

section Decoding

variable [Decodable2718 α]

/-- A type byte is at most `0x7f`; anything else is not a typed transaction. -/
def decode2718 : Cursor Eip2718Error α := do
  match ← Cursor.remaining with
  | ty :: rest =>
      if ty ≤ 0x7f then
        Cursor.assign rest
        typedDecode ty
      else fallbackDecode
  | [] => fallbackDecode

def decode2718Exact (bytes : List UInt8) : Except Eip2718Error α :=
  match decode2718 bytes with
  | (.ok tx, []) => .ok tx
  | (.ok _, _ :: _) => .error (.rlpError .unexpectedLength)
  | (.error e, _) => .error e

/-- The typed decoder sees all that follows the header, not just what it announces. -/
def networkDecode [LengthCheck] : Cursor Eip2718Error α := do
  let buf ← Cursor.remaining
  let (header, body) ← Cursor.lift ((Rlp.Header.decode buf).mapError .rlpError)
  if header.list then
    fallbackDecode
  else
    match body with
    | [] => Cursor.fail (.rlpError .inputTooShort)
    | ty :: rest =>
        Cursor.assign rest
        let tx ← typedDecode ty
        let left ← Cursor.remaining
        if body.length - left.length ≠ header.payloadLength ∧ LengthCheck.reject body then
          Cursor.fail (.rlpError .unexpectedLength)
        else return tx

end Decoding

/-! ## Equations -/

section

variable [Decodable2718 α]

theorem decode2718_typed {ty : UInt8} (hty : ty ≤ 0x7f) (rest : List UInt8) :
    decode2718 (α := α) (ty :: rest) = typedDecode ty rest := by
  simp [decode2718, hty]

theorem decode2718_fallback {buf : List UInt8} (hbuf : ∀ ty rest, buf = ty :: rest → ¬ ty ≤ 0x7f) :
    decode2718 (α := α) buf = fallbackDecode buf := by
  cases buf with
  | nil => simp [decode2718]
  | cons ty rest => simp [decode2718, hbuf ty rest rfl]

theorem decode2718Exact_eq_ok_iff {bytes : List UInt8} {tx : α} :
    decode2718Exact bytes = .ok tx ↔ decode2718 bytes = (.ok tx, []) := by
  unfold decode2718Exact
  split
  next tx' heq => simp [heq]
  next tx' b rest heq => simp [heq]
  next e rest heq => simp [heq]

end

/-! ## Wrapped envelopes -/

/-- Where an envelope is read from the network, one that reads the same typed and
fallback forms as wrapped ones is read too, and stops at the same byte. -/
theorem networkDecode_of_wrapped [LengthCheck] [Decodable2718 α] [Decodable2718 β] {wrap : α → β}
    (htyped : ∀ {ty buf rest} {a : α}, typedDecode ty buf = (.ok a, rest) →
      typedDecode ty buf = (.ok (wrap a), rest))
    (hfallback : ∀ {buf rest} {a : α}, fallbackDecode buf = (.ok a, rest) →
      fallbackDecode buf = (.ok (wrap a), rest))
    {buf rest : List UInt8} {a : α} (hread : networkDecode buf = (.ok a, rest)) :
    networkDecode buf = (.ok (wrap a), rest) := by
  simp only [networkDecode, Cursor.remaining_bind] at hread ⊢
  cases hheader : Rlp.Header.decode buf with
  | error e => simp [hheader, Except.mapError] at hread
  | ok header =>
      obtain ⟨header, body⟩ := header
      simp only [hheader, Except.mapError, Cursor.lift_ok_bind] at hread ⊢
      -- a list is a legacy transaction, anything else is typed
      by_cases hlist : header.list = true
      · simp only [hlist, if_true] at hread ⊢
        exact hfallback hread
      · simp only [hlist, Bool.false_eq_true, if_false] at hread ⊢
        cases body with
        | nil => simp at hread
        | cons ty body =>
            simp only [Cursor.assign_bind, Cursor.bind_eq_ok_iff] at hread ⊢
            obtain ⟨tx, left, htx, left', buf', hleft, hread⟩ := hread
            refine ⟨wrap tx, left, htyped htx, left', buf', hleft, ?_⟩
            split at hread
            next => simp at hread
            next hlength =>
              -- the length check sees the same buffers, so it passes again
              rw [if_neg hlength]
              simp only [Cursor.pure_apply, Prod.mk.injEq, Except.ok.injEq] at hread ⊢
              obtain ⟨rfl, rfl⟩ := hread
              exact ⟨rfl, rfl⟩

end RethCosmos.Upstream
