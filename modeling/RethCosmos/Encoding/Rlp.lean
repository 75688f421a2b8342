import RethCosmos.Encoding.Codec
import RethCosmos.Encoding.BigEndian
import RethCosmos.Encoding.Bytes

/-!
# Recursive length prefix

The item and list headers of RLP as `alloy_rlp` reads and writes them, on a machine
with 64-bit lengths. The decoders accept the canonical form only: minimal integers,
the shortest header, and no header in front of a single byte below `0x80`.
-/

namespace RethCosmos.Encoding.Rlp

inductive Error
  | overflow
  | leadingZero
  | inputTooShort
  | nonCanonicalSingleByte
  | nonCanonicalSize
  | unexpectedLength
  | unexpectedString
  | unexpectedList
  | custom (message : String)
  deriving DecidableEq, Repr

structure Header where
  list : Bool
  payloadLength : Nat
  deriving DecidableEq, Repr

/-- Left-pad to `width` bytes and read the result; only minimal numerals are accepted. -/
def staticLeftPad (width : Nat) (data : List UInt8) : Except Error Nat :=
  if width < data.length then .error .overflow
  else
    match data with
    | [] => .ok 0
    | b :: _ => if b = 0 then .error .leadingZero else .ok (ofBe data)

namespace Header

def encode (header : Header) : List UInt8 :=
  if header.payloadLength < 56 then
    [UInt8.ofNat ((if header.list then 0xc0 else 0x80) + header.payloadLength)]
  else
    let lenBe := trimmedBe 8 header.payloadLength
    UInt8.ofNat ((if header.list then 0xf7 else 0xb7) + lenBe.length) :: lenBe

def length (header : Header) : Nat :=
  if header.payloadLength < 56 then 1 else 1 + (trimmedBe 8 header.payloadLength).length

/-- The payload a header announces has to be present. -/
def checkRemaining (header : Header) (buf : List UInt8) :
    Except Error (Header × List UInt8) :=
  if buf.length < header.payloadLength then .error .inputTooShort else .ok (header, buf)

/-- A length of `lenOfLen` bytes, which has to need the long form. -/
def decodeLong (list : Bool) (lenOfLen : Nat) (buf : List UInt8) :
    Except Error (Header × List UInt8) :=
  if buf.length < lenOfLen then .error .inputTooShort
  else
    match staticLeftPad 8 (buf.take lenOfLen) with
    | .error e => .error e
    | .ok payloadLength =>
        if payloadLength < 56 then .error .nonCanonicalSize
        else checkRemaining ⟨list, payloadLength⟩ (buf.drop lenOfLen)

/-- A byte below `0x80` is its own payload and is not consumed. -/
def decode : Decoder Error UInt8 Header
  | [] => .error .inputTooShort
  | b :: rest =>
      if b.toNat < 0x80 then checkRemaining ⟨false, 1⟩ (b :: rest)
      else if b.toNat < 0xb8 then
        let payloadLength := b.toNat - 0x80
        if payloadLength = 1 then
          match rest with
          | [] => .error .inputTooShort
          | next :: _ =>
              if next.toNat < 0x80 then .error .nonCanonicalSingleByte
              else checkRemaining ⟨false, payloadLength⟩ rest
        else checkRemaining ⟨false, payloadLength⟩ rest
      else if b.toNat < 0xc0 then decodeLong false (b.toNat - 0xb7) rest
      else if b.toNat < 0xf8 then checkRemaining ⟨true, b.toNat - 0xc0⟩ rest
      else decodeLong true (b.toNat - 0xf7) rest

end Header

/-- `Header::decode_bytes`: the payload of the next item. -/
def decodePayload (isList : Bool) : Decoder Error UInt8 (List UInt8) := fun buf =>
  match Header.decode buf with
  | .error e => .error e
  | .ok (header, rest) =>
      if header.list ≠ isList then
        .error (if isList then .unexpectedString else .unexpectedList)
      else .ok (rest.take header.payloadLength, rest.drop header.payloadLength)

/-! ## Byte strings -/

def encodeBytes (bytes : List UInt8) : List UInt8 :=
  match bytes with
  | [b] => if b.toNat < 0x80 then [b] else Header.encode ⟨false, 1⟩ ++ [b]
  | _ => Header.encode ⟨false, bytes.length⟩ ++ bytes

/-- The `Encodable::length` of a byte string. -/
def lengthBytes (bytes : List UInt8) : Nat :=
  match bytes with
  | [b] => if b.toNat < 0x80 then 1 else 1 + Header.length ⟨false, 1⟩
  | _ => bytes.length + Header.length ⟨false, bytes.length⟩

def decodeBytes : Decoder Error UInt8 (List UInt8) := decodePayload false

/-- The RLP of `[u8; n]` is its byte string. -/
def encodeFixed {n : Nat} (bytes : FixedBytes n) : List UInt8 := encodeBytes bytes.data

def decodeFixed (n : Nat) : Decoder Error UInt8 (FixedBytes n) :=
  decodeBytes.parse fun slice =>
    match FixedBytes.ofSlice? n slice with
    | some bytes => .ok bytes
    | none => .error .unexpectedLength

/-! ## Integers -/

def encodeUint {bits : Nat} (x : BitVec bits) : List UInt8 :=
  if x.toNat = 0 then [0x80]
  else if x.toNat < 0x80 then [UInt8.ofNat x.toNat]
  else
    let be := trimmedBe (bits / 8) x.toNat
    UInt8.ofNat (0x80 + be.length) :: be

def decodeUint (bits : Nat) : Decoder Error UInt8 (BitVec bits) :=
  decodeBytes.parse fun bytes => (staticLeftPad (bits / 8) bytes).map (BitVec.ofNat bits)

/-! ## Lists -/

/-- The `list` item whose body is already encoded. -/
def encodeList (body : List UInt8) : List UInt8 := Header.encode ⟨true, body.length⟩ ++ body

end RethCosmos.Encoding.Rlp
