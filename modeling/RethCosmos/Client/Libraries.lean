import RethCosmos.Encoding.Base64
import RethCosmos.Encoding.Bech32
import RethCosmos.Encoding.Hex
import RethCosmos.Encoding.Json
import RethCosmos.Encoding.Rlp
import RethCosmos.Rust.Result

/-!
# The libraries of the client

What the client imports from `ethers` and from CosmJS: byte strings travel as
`0x`-prefixed text and numbers are unbounded. A thrown error is the `error` case.
-/

namespace RethCosmos.Client

open Encoding

abbrev Text := List Char

inductive Error
  /-- A library was given an argument it does not take. -/
  | invalidArgument
  | thrown (message : String)
  deriving DecidableEq

/-! ## ethers -/

/-- The bytes of a `0x`-prefixed text with an even number of digits, of either case. -/
def getBytes : Text → Except Error (List UInt8)
  | '0' :: x :: digits =>
      if x = 'x' ∨ x = 'X' then
        match Hex.decode digits with
        | some bytes => .ok bytes
        | none => .error .invalidArgument
      else .error .invalidArgument
  | _ => .error .invalidArgument

def hexlify (bytes : List UInt8) : Text := '0' :: 'x' :: Hex.encode bytes

def toBeHex (n : Nat) : Text := '0' :: 'x' :: Hex.natDigits n

/-- The client encodes flat lists of byte strings only. -/
def encodeRlp (items : List Text) : Except Error Text := do
  let items ← items.mapM getBytes
  return hexlify (Rlp.encodeList (items.flatMap Rlp.encodeBytes))

@[simp] theorem getBytes_hexlify (bytes : List UInt8) : getBytes (hexlify bytes) = .ok bytes := by
  simp [getBytes, hexlify, Hex.decode_encode]

/-- The bytes of a positive number are its numeral without leading zeros. -/
theorem getBytes_toBeHex {w n : Nat} (hpos : 0 < n) (hn : n < 256 ^ w) :
    getBytes (toBeHex n) = .ok (trimmedBe w n) := by
  have htext : toBeHex n = hexlify (trimmedBe w n) := by
    rw [toBeHex, Hex.natDigits_eq_encode hpos hn, hexlify]
  rw [htext, getBytes_hexlify]

theorem encodeRlp_eq_ok_iff {items : List Text} {text : Text} :
    encodeRlp items = .ok text ↔
      ∃ bodies, items.mapM getBytes = .ok bodies ∧
        hexlify (Rlp.encodeList (bodies.flatMap Rlp.encodeBytes)) = text := by
  simp only [encodeRlp, Rust.bind_eq_ok_iff, Rust.pure_eq_ok, Except.ok.injEq]

/-! ## CosmJS -/

def toBech32 (hrp : Text) (data : List UInt8) : Except Error Text :=
  match Bech32.encode hrp (Bech32.toBase32 data) with
  | some text => .ok text
  | none => .error .invalidArgument

/-- The characters that are unsafe inside a script element. -/
def escapeCharacter (ch : Char) : Text :=
  if ch = '&' then "\\u0026".toList
  else if ch = '<' then "\\u003c".toList
  else if ch = '>' then "\\u003e".toList
  else [ch]

def escapeCharacters (text : Text) : Text := text.flatMap escapeCharacter

abbrev StdSignDoc := Json

/-- Compact JSON with sorted keys. -/
def serializeSignDoc (doc : StdSignDoc) : List UInt8 :=
  utf8 (escapeCharacters (doc.sortKeys.render Json.escapeControl))

structure StdSignature where
  /-- Base64, as is the signature. -/
  pubKeyValue : Text
  signature : Text

structure AminoSignResponse where
  signed : StdSignDoc
  signature : StdSignature

/-- A wallet may return another document than the one it was asked to sign. -/
structure Wallet where
  getAccounts : List Text
  signAmino : Text → StdSignDoc → Except Error AminoSignResponse

theorem escapeCharacters_append (front back : Text) :
    escapeCharacters (front ++ back) = escapeCharacters front ++ escapeCharacters back :=
  List.flatMap_append

theorem escapeCharacters_of_plain {text : Text} (h : ∀ ch ∈ text, Json.Plain ch) :
    escapeCharacters text = text := by
  unfold escapeCharacters
  induction text with
  | nil => rfl
  | cons ch text ih =>
      obtain ⟨_, _, hspecial⟩ := h ch List.mem_cons_self
      simp only [List.mem_cons, List.not_mem_nil, or_false, not_or] at hspecial
      rw [List.flatMap_cons, ih fun c hc => h c (List.mem_cons_of_mem ch hc), escapeCharacter,
        if_neg hspecial.2.2.1, if_neg hspecial.2.2.2.1, if_neg hspecial.2.2.2.2]
      rfl

end RethCosmos.Client
