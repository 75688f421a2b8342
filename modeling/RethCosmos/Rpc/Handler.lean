import RethCosmos.CosmosAuth.Wire
import RethCosmos.Encoding.Hex
import RethCosmos.Encoding.Json

/-!
# The `cosmos_sendRawTransaction` handler

A request takes a permit, its text is checked by size and first characters, the pool has
to have room, and only then is the text turned into bytes and decoded. What the handler
accepts is handed to the Ethereum endpoint as bytes.
-/

namespace RethCosmos.Rpc

open Encoding Rust CosmosAuth

/-- A Rust `String`; its length is that of its UTF-8 bytes. -/
abbrev Text := List Char

structure ErrorObject where
  code : Int
  message : String
  deriving DecidableEq

def rpcError (message : String) : ErrorObject := ⟨-32000, message⟩

/-- The display text of an authorization error. -/
def authErrorText : AuthError → String
  | .encoding => "invalid or noncanonical transaction encoding"
  | .limit => "transaction exceeds protocol limits"
  | .domain => "wrong chain or genesis"
  | .publicKey => "invalid compressed secp256k1 public key"
  | .sender => "sender does not match public key"
  | .signature => "invalid or noncanonical Cosmos signature"

def maxPermits : Nat := 8

def maxPoolTotal : Nat := 3072

/-- The leading text of an accepted request. -/
def typeText : Text := ['0', 'x', '7', 'e']

/-! ## The checks -/

def checkText (raw : Text) : Except ErrorObject Unit :=
  if (utf8 raw).length > 2 + 2 * maxRawTx ∨ ¬ typeText <+: raw then
    .error (rpcError "invalid Cosmos transaction type or size")
  else .ok ()

def checkPool (total : Nat) : Except ErrorObject Unit :=
  if total ≥ maxPoolTotal then .error (rpcError "transaction pool is full") else .ok ()

/-- The `Bytes` parser: pairs of digits of either case behind an optional `0x`. -/
def parseBytes : Text → Option (List UInt8)
  | '0' :: 'x' :: digits => Hex.decode digits
  | digits => Hex.decode digits

def parse (raw : Text) : Except ErrorObject (List UInt8) :=
  match parseBytes raw with
  | some bytes => .ok bytes
  | none => .error (rpcError "invalid transaction hex")

def checkWire (raw : List UInt8) : Except ErrorObject Unit := do
  let _ ← (decodeWire raw).mapError fun e => rpcError (authErrorText e)
  return ()

/-! ## The handler -/

/-- All that comes before the call of the Ethereum endpoint, with `free` permits and
`total` transactions in the pool. The parameters of the request may fail to parse. -/
def prepare (free total : Nat) (params : Except ErrorObject Text) :
    Except ErrorObject (List UInt8) := do
  if free = 0 then
    throw (rpcError "authorization capacity reached")
  let raw ← params
  checkText raw
  checkPool total
  let bytes ← parse raw
  checkWire bytes
  return bytes

/-- The calls of `send_raw_transaction` a request leads to, and its response. -/
structure Handled where
  sent : List (List UInt8)
  response : Except ErrorObject B256

def handle (sendRawTransaction : List UInt8 → Except String B256) (free total : Nat)
    (params : Except ErrorObject Text) : Handled :=
  match prepare free total params with
  | .ok bytes => ⟨[bytes], (sendRawTransaction bytes).mapError rpcError⟩
  | .error e => ⟨[], .error e⟩

/-! ## What is passed on -/

theorem checkText_eq_ok_iff {raw : Text} :
    checkText raw = .ok () ↔ (utf8 raw).length ≤ 2 + 2 * maxRawTx ∧ typeText <+: raw := by
  simp [checkText]

theorem checkPool_eq_ok_iff {total : Nat} : checkPool total = .ok () ↔ total < maxPoolTotal := by
  simp [checkPool]

theorem parse_eq_ok_iff {raw : Text} {bytes : List UInt8} :
    parse raw = .ok bytes ↔ parseBytes raw = some bytes := by
  unfold parse
  split
  next heq => simp [heq]
  next heq => simp [heq]

theorem checkWire_eq_ok_iff {raw : List UInt8} :
    checkWire raw = .ok () ↔ ∃ parts, decodeWire raw = .ok parts := by
  simp only [checkWire, bind_eq_ok_iff, mapError_eq_ok_iff, pure_eq_ok, and_true]

/-- Bytes are passed on exactly if every check of the request passes. -/
theorem prepare_eq_ok_iff {free total : Nat} {params : Except ErrorObject Text}
    {bytes : List UInt8} :
    prepare free total params = .ok bytes ↔
      0 < free ∧ ∃ raw, params = .ok raw ∧ checkText raw = .ok () ∧ total < maxPoolTotal ∧
        parseBytes raw = some bytes ∧ ∃ parts, decodeWire bytes = .ok parts := by
  simp only [prepare, throw_eq_error, error_bind, ite_error_eq_ok_iff, bind_eq_ok_iff, pure_eq_ok,
    Except.ok.injEq, ← checkPool_eq_ok_iff, ← parse_eq_ok_iff, ← checkWire_eq_ok_iff,
    Nat.pos_iff_ne_zero, ne_eq]
  constructor
  · intro h
    obtain ⟨hfree, raw, hparams, _, htext, _, hpool, read, hparse, _, hwire, rfl⟩ := h
    exact ⟨hfree, raw, hparams, htext, hpool, hparse, hwire⟩
  · intro h
    obtain ⟨hfree, raw, hparams, htext, hpool, hparse, hwire⟩ := h
    exact ⟨hfree, raw, hparams, (), htext, (), hpool, bytes, hparse, (), hwire, rfl⟩

theorem handle_sent_iff {sendRawTransaction : List UInt8 → Except String B256}
    {free total : Nat} {params : Except ErrorObject Text} {bytes : List UInt8} :
    (handle sendRawTransaction free total params).sent = [bytes] ↔
      prepare free total params = .ok bytes := by
  unfold handle
  split
  next heq => simp [heq]
  next heq => simp [heq]

end RethCosmos.Rpc
