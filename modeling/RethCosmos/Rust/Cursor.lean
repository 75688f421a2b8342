import RethCosmos.Encoding.Codec

/-!
# Buffer cursors

Functions of a `&mut &[u8]`. A failing function may have moved the cursor, so the
buffer it leaves behind is part of every result, of an error as well.
-/

namespace RethCosmos.Rust

open Encoding

/-- The result of a function and the buffer it leaves to its caller. -/
def Cursor (ε α : Type) := List UInt8 → Except ε α × List UInt8

namespace Cursor

variable {ε δ α β : Type}

def bind (x : Cursor ε α) (f : α → Cursor ε β) : Cursor ε β := fun buf =>
  match x buf with
  | (.ok a, buf) => f a buf
  | (.error e, buf) => (.error e, buf)

instance : Monad (Cursor ε) where
  pure a := fun buf => (.ok a, buf)
  bind := Cursor.bind

/-- A copy of the slice, `*buf`. -/
def remaining : Cursor ε (List UInt8) := fun buf => (.ok buf, buf)

/-- The assignment `*buf = rest`. -/
def assign (rest : List UInt8) : Cursor ε Unit := fun _ => (.ok (), rest)

def fail (e : ε) : Cursor ε α := fun buf => (.error e, buf)

/-- `?` on a call that does not see the cursor. -/
def lift (x : Except ε α) : Cursor ε α := fun buf => (x, buf)

def map (f : α → β) (x : Cursor ε α) : Cursor ε β := fun buf => ((x buf).1.map f, (x buf).2)

def mapError (f : ε → δ) (x : Cursor ε α) : Cursor δ α := fun buf =>
  ((x buf).1.mapError f, (x buf).2)

@[simp] theorem pure_apply (a : α) (buf : List UInt8) :
    (pure a : Cursor ε α) buf = (.ok a, buf) := rfl

@[simp] theorem remaining_bind (f : List UInt8 → Cursor ε β) (buf : List UInt8) :
    (remaining >>= f) buf = f buf buf := rfl

@[simp] theorem assign_bind (rest : List UInt8) (f : Unit → Cursor ε β) (buf : List UInt8) :
    (assign rest >>= f) buf = f () rest := rfl

@[simp] theorem fail_apply (e : ε) (buf : List UInt8) :
    (fail e : Cursor ε α) buf = (.error e, buf) := rfl

@[simp] theorem fail_bind (e : ε) (f : α → Cursor ε β) (buf : List UInt8) :
    (fail e >>= f) buf = (.error e, buf) := rfl

@[simp] theorem lift_ok_bind (a : α) (f : α → Cursor ε β) (buf : List UInt8) :
    (lift (.ok a) >>= f) buf = f a buf := rfl

@[simp] theorem lift_error_bind (e : ε) (f : α → Cursor ε β) (buf : List UInt8) :
    (lift (.error e) >>= f) buf = (.error e, buf) := rfl

theorem bind_eq_ok_iff {x : Cursor ε α} {f : α → Cursor ε β} {buf rest : List UInt8} {b : β} :
    (x >>= f) buf = (.ok b, rest) ↔
      ∃ a left, x buf = (.ok a, left) ∧ f a left = (.ok b, rest) := by
  simp only [Bind.bind, bind]
  rcases x buf with ⟨e | a, left⟩
  · simp
  · simp

theorem map_eq_ok_iff {f : α → β} {x : Cursor ε α} {buf rest : List UInt8} {b : β} :
    map f x buf = (.ok b, rest) ↔ ∃ a, x buf = (.ok a, rest) ∧ f a = b := by
  rcases hx : x buf with ⟨e | a, left⟩
  · simp [map, hx, Except.map]
  · simp [map, hx, Except.map, and_comm]

theorem mapError_eq_ok_iff {f : ε → δ} {x : Cursor ε α} {buf rest : List UInt8} {a : α} :
    mapError f x buf = (.ok a, rest) ↔ x buf = (.ok a, rest) := by
  rcases hx : x buf with ⟨e | b, left⟩
  · simp [mapError, hx, Except.mapError]
  · simp [mapError, hx, Except.mapError]

/-- The cursor as a decoder, which forgets where an error leaves the buffer. -/
def toDecoder (x : Cursor ε α) : Decoder ε UInt8 α := fun buf =>
  match x buf with
  | (.ok a, rest) => .ok (a, rest)
  | (.error e, _) => .error e

theorem toDecoder_eq_ok_iff {x : Cursor ε α} {buf rest : List UInt8} {a : α} :
    x.toDecoder buf = .ok (a, rest) ↔ x buf = (.ok a, rest) := by
  rcases hx : x buf with ⟨e | b, left⟩
  · simp [toDecoder, hx]
  · simp [toDecoder, hx]

end Cursor

end RethCosmos.Rust
