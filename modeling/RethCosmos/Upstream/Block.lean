import RethCosmos.Upstream.Eip2718

/-!
# Blocks

The body of a block next to its header, and the length of its RLP form. Withdrawals are
there from Shanghai on.
-/

namespace RethCosmos.Upstream

open Encoding Rust

variable {α H : Type}

/-! ## Lists of items -/

section

variable [RlpEncodable α]

/-- The lengths of the items, without the header of the list. -/
def payloadLength (items : List α) : Nat := (items.map RlpEncodable.length).sum

/-- `Encodable::length` of a vector. -/
def listLength (items : List α) : Nat :=
  payloadLength items + Rlp.Header.length ⟨true, payloadLength items⟩

theorem listLength_nil : listLength ([] : List α) = 1 := rfl

theorem listLength_le {items : List α} (hsmall : payloadLength items < 2 ^ 24) :
    listLength items ≤ payloadLength items + 4 :=
  Nat.add_le_add_left (Rlp.Header.length_le_four hsmall) _

end

/-! ## Withdrawals -/

structure Withdrawal where
  index : BitVec 64
  validatorIndex : BitVec 64
  address : FixedBytes 20
  amount : BitVec 64
  deriving DecidableEq

def Withdrawal.items (withdrawal : Withdrawal) : List UInt8 :=
  Rlp.encodeUint withdrawal.index ++ Rlp.encodeUint withdrawal.validatorIndex ++
    Rlp.encodeFixed withdrawal.address ++ Rlp.encodeUint withdrawal.amount

instance : RlpEncodable Withdrawal where
  encode withdrawal := Rlp.encodeList withdrawal.items
  length withdrawal :=
    withdrawal.items.length + Rlp.Header.length ⟨true, withdrawal.items.length⟩

/-! ## Blocks -/

structure BlockBody (α H : Type) where
  transactions : List α
  ommers : List H
  withdrawals : Option (List Withdrawal)

/-- A sealed block with the senders of its transactions. -/
structure RecoveredBlock (α H : Type) where
  header : H
  hash : FixedBytes 32
  body : BlockBody α H
  senders : List (FixedBytes 20)

/-- The block without its hash and its senders. -/
def RecoveredBlock.intoBlock (block : RecoveredBlock α H) : H × BlockBody α H :=
  (block.header, block.body)

/-- A header with its hash. -/
structure SealedHeader (H : Type) where
  header : H
  hash : FixedBytes 32

class BlockHeader (H : Type) where
  gasLimit : H → BitVec 64
  stateRoot : H → FixedBytes 32

section

variable [RlpEncodable α] [RlpEncodable H]

def BlockBody.rlpLength (body : BlockBody α H) : Nat :=
  listLength body.transactions + listLength body.ommers +
    match body.withdrawals with
    | some withdrawals => listLength withdrawals
    | none => 0

def RecoveredBlock.rlpPayloadLength (block : RecoveredBlock α H) : Nat :=
  RlpEncodable.length block.header + block.body.rlpLength

/-- A block is one list of its header and the fields of its body. -/
def RecoveredBlock.rlpLength (block : RecoveredBlock α H) : Nat :=
  block.rlpPayloadLength + Rlp.Header.length ⟨true, block.rlpPayloadLength⟩

/-- What a block without ommers adds to its header, its transactions and its withdrawals:
the headers of the block and of the transaction list, and the empty list. -/
theorem RecoveredBlock.rlpLength_le {block : RecoveredBlock α H} {withdrawals : List Withdrawal}
    (hommers : block.body.ommers = []) (hwithdrawals : block.body.withdrawals = some withdrawals)
    (hsmall : RlpEncodable.length block.header + payloadLength block.body.transactions +
      listLength withdrawals + 5 < 2 ^ 24) :
    block.rlpLength ≤ RlpEncodable.length block.header +
      payloadLength block.body.transactions + listLength withdrawals + 9 := by
  have htransactions : listLength block.body.transactions ≤
      payloadLength block.body.transactions + 4 := by
    apply listLength_le
    omega
  have hpayload : block.rlpPayloadLength ≤ RlpEncodable.length block.header +
      payloadLength block.body.transactions + listLength withdrawals + 5 := by
    simp only [rlpPayloadLength, BlockBody.rlpLength, hommers, hwithdrawals, listLength_nil]
    omega
  have hheader := @Rlp.Header.length_le_four ⟨true, block.rlpPayloadLength⟩
    (Nat.lt_of_le_of_lt hpayload hsmall)
  unfold rlpLength
  omega

end

end RethCosmos.Upstream
