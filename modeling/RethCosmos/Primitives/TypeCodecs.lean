import RethCosmos.Primitives.Delegation
import RethCosmos.Primitives.RpcJson

/-!
# Codecs of transaction types

A transaction type is read from one byte of RLP, from the head of a stored envelope and from
a quantity of JSON, and the envelope is asked which types it has. Each reader ends in the
one check for supported values.
-/

namespace RethCosmos.Upstream

/-- The types that a type of transactions has. -/
class IsTyped2718 (α : Type) where
  isType : UInt8 → Bool

end RethCosmos.Upstream

namespace RethCosmos.Primitives

open Encoding Rust Upstream CosmosAuth
open Crypto (Suite)

variable {T V : Type}

namespace CosmosTxType

instance : IsTyped2718 CosmosTxType where
  isType ty := (tryFrom ty).isOk

instance : RlpEncodable CosmosTxType where
  encode ty := Rlp.encodeUint ty.ty.toBitVec
  length ty := if ty.ty < 0x80 then 1 else 2

/-- The byte is consumed before it is checked. -/
def decode : Decoder Rlp.Error UInt8 CosmosTxType :=
  (Rlp.decodeUint 8).parse fun value =>
    (tryFrom (UInt8.ofBitVec value)).mapError Eip2718Error.toRlp

theorem tryFrom_eq_ok_iff {value : UInt8} {ty : CosmosTxType} :
    tryFrom value = .ok ty ↔ ty.ty = value := by
  constructor
  · intro hread
    unfold tryFrom at hread
    split at hread
    next => rw [← Except.ok.inj hread]
    next => simp at hread
  · rintro rfl
    exact tryFrom_ty ty

theorem isType_iff {value : UInt8} :
    IsTyped2718.isType CosmosTxType value = true ↔ Supported value := by
  simp only [IsTyped2718.isType, tryFrom]
  split
  next hsupported => simpa [Except.isOk, Except.toBool] using hsupported
  next hnot => simpa [Except.isOk, Except.toBool] using hnot

/-! ## RLP -/

/-- The reader of RLP accepts the written form of each type and nothing else. -/
theorem rlp_exact : Exact (fun _ => True) RlpEncodable.encode decode := by
  have hbyte : Exact (fun _ => True) Rlp.encodeUint (Rlp.decodeUint 8) :=
    Rlp.uint_exact rfl (by decide)
  apply hbyte.refine
  · intro ty _
    trivial
  · intro ty _
    rw [UInt8.ofBitVec_toBitVec, tryFrom_ty]
    rfl
  · intro value ty _ hread
    rw [mapError_eq_ok_iff, tryFrom_eq_ok_iff] at hread
    exact ⟨trivial, by rw [hread, UInt8.toBitVec_ofBitVec]⟩

theorem supported_lt {value : UInt8} (hsupported : Supported value) : value < 0x80 := by
  rcases hsupported with rfl | hstandard
  · decide
  · obtain ⟨ty, hty⟩ := Option.isSome_iff_exists.mp hstandard
    rw [← TxType.toU8_of_tryFrom hty]
    cases ty <;> decide

theorem rlp_length (ty : CosmosTxType) :
    RlpEncodable.length ty = (RlpEncodable.encode ty).length := by
  have hsmall := supported_lt ty.supported
  have hnat : ty.ty.toNat < 0x80 := UInt8.lt_iff_toNat_lt.mp hsmall
  simp only [RlpEncodable.length, RlpEncodable.encode, hsmall, if_true, Rlp.encodeUint,
    UInt8.toNat_toBitVec, hnat]
  split <;> rfl

/-! ## The head of a stored envelope -/

/-- Under the identifier 3 the type is in a byte of its own, which may be any type. -/
theorem fromCompact_eq_ok_iff {buf rest : List UInt8} {identifier : Nat} {ty : CosmosTxType} :
    CompactTag.fromCompact buf identifier = .ok (ty, rest) ↔
      (identifier = 3 ∧ buf = ty.ty :: rest) ∨
        (identifier ≠ 3 ∧ identifier = ty.ty.toNat ∧ rest = buf) := by
  simp only [CompactTag.fromCompact]
  by_cases hextended : identifier = 3
  · simp only [hextended, if_true, Outcome.bind_eq_ok_iff, Outcome.expect_eq_ok_iff,
      tryFrom_eq_ok_iff, Outcome.pure_eq_ok, Outcome.ok.injEq, Prod.mk.injEq, ne_eq,
      not_true_eq_false, false_and, or_false, true_and]
    cases buf with
    | nil => simp [Outcome.index]
    | cons b buf => simp [Outcome.index, eq_comm]
  · have hlt := ty.ty.toNat_lt
    simp only [hextended, if_false, false_and, false_or, ne_eq, not_false_eq_true, true_and]
    by_cases hbyte : identifier < 256
    · -- an identifier of one byte is the type itself
      have hvalue : ty.ty = UInt8.ofNat identifier ↔ identifier = ty.ty.toNat := by
        rw [← UInt8.toNat_inj, UInt8.toNat_ofNat', Nat.mod_eq_of_lt hbyte, eq_comm]
      simp only [hbyte, if_true, Outcome.pure_eq_ok, Outcome.ok_bind, Outcome.bind_eq_ok_iff,
        Outcome.expect_eq_ok_iff, tryFrom_eq_ok_iff, Outcome.ok.injEq, Prod.mk.injEq]
      constructor
      · rintro ⟨ty', hty, rfl, rfl⟩
        exact ⟨hvalue.mp hty, rfl⟩
      · rintro ⟨hty, rfl⟩
        exact ⟨ty, hvalue.mpr hty, rfl, rfl⟩
    · simp only [hbyte, if_false, Outcome.panic_bind, reduceCtorEq, false_iff, not_and]
      omega

/-- What is read is what would be written, but for a type below 3 in a byte of its own. -/
theorem canonical_of_fromCompact {buf rest : List UInt8} {identifier : Nat} {ty : CosmosTxType}
    (hidentifier : identifier < 4)
    (hread : CompactTag.fromCompact buf identifier = .ok (ty, rest)) :
    (identifier = (CompactTag.toCompact ty).2 ∧ buf = (CompactTag.toCompact ty).1 ++ rest) ↔
      ¬ (identifier = 3 ∧ ty.ty < 3) := by
  rcases fromCompact_eq_ok_iff.mp hread with ⟨rfl, rfl⟩ | ⟨hother, rfl, rfl⟩
  · simp only [CompactTag.toCompact]
    by_cases hsmall : ty.ty < 3
    · have hlt : ty.ty.toNat < 3 := UInt8.lt_iff_toNat_lt.mp hsmall
      simp only [hsmall, if_true, and_self, not_true_eq_false, iff_false, not_and]
      omega
    · simp [hsmall]
  · have hsmall : ty.ty < 3 := UInt8.lt_iff_toNat_lt.mpr (by
      have hthree : (3 : UInt8).toNat = 3 := rfl
      omega)
    simp [CompactTag.toCompact, hsmall, hother]

/-! ## JSON -/

theorem read_eq_some_iff [HexForms V] {value : V} {ty : CosmosTxType} :
    read value = some ty ↔ readQuantity value = some ty.ty.toNat := by
  have hlt := ty.ty.toNat_lt
  simp only [read, readUint, Option.bind_eq_bind, Option.bind_eq_some_iff]
  constructor
  · rintro ⟨x, ⟨n, hquantity, hx⟩, hty⟩
    -- the reader checks the width of the number and then the type
    have hvalid : tryFrom (UInt8.ofBitVec x) = .ok ty := by
      cases hread : tryFrom (UInt8.ofBitVec x) with
      | error e => simp [hread, Except.toOption] at hty
      | ok ty' =>
          rw [hread] at hty
          exact congrArg Except.ok (Option.some.inj hty)
    rw [tryFrom_eq_ok_iff] at hvalid
    split at hx
    next hn =>
      obtain rfl := Option.some.inj hx
      have hvalue : ty.ty.toNat = n := by
        rw [hvalid, UInt8.toNat_ofBitVec, BitVec.toNat_ofNat, Nat.mod_eq_of_lt hn]
      rw [hquantity, hvalue]
    next => simp at hx
  · intro hquantity
    refine ⟨ty.ty.toBitVec, ⟨_, hquantity, ?_⟩, ?_⟩
    · rw [if_pos hlt]
      exact congrArg some (BitVec.ofNat_toNat _ _)
    · rw [UInt8.ofBitVec_toBitVec, tryFrom_ty]
      rfl

end CosmosTxType

/-! ## The envelope -/

namespace CosmosEnvelope

instance [IsTyped2718 T] : IsTyped2718 (CosmosEnvelope T) where
  isType ty := ty = txType || IsTyped2718.isType T ty

/-- The envelope has the types that the chain has. -/
theorem isType_iff [IsTyped2718 T]
    (htypes : ∀ ty, IsTyped2718.isType T ty = (TxType.tryFrom ty).isSome) (ty : UInt8) :
    IsTyped2718.isType (CosmosEnvelope T) ty = true ↔ Supported ty := by
  simp only [IsTyped2718.isType, htypes, Bool.or_eq_true, decide_eq_true_eq, Supported]

end CosmosEnvelope

/-- Only a type that the envelope has is decoded. -/
theorem supported_of_typedDecode [Suite] [Decodable2718 T] (hstandard : KnowsStandardTypes T)
    {value : UInt8} {buf rest : List UInt8} {tx : CosmosEnvelope T}
    (hread : typedDecode value buf = (.ok tx, rest)) : Supported value := by
  by_cases hcosmos : value = txType
  · exact Or.inl hcosmos
  · right
    rw [Option.isSome_iff_ne_none]
    intro hunknown
    rw [typedDecode_ethereum hcosmos, Cursor.map_eq_ok_iff] at hread
    obtain ⟨t, hread, _⟩ := hread
    exact hstandard value buf rest t hunknown hread

/-- All readers of a type agree on which types there are. RLP has one form for each type. In a
stored head the identifier 3 announces a further byte, so that the first three types have two
forms, of which the second is never written; every other input stops the reader. A quantity of
JSON is a type exactly if it is the number of one. The envelope has these types, decodes no
others, and asking an envelope for its type never stops the node. -/
theorem types_agree_in_every_codec (T V : Type) [Suite] [Typed2718 T] [Decodable2718 T]
    [IsTyped2718 T] [HexForms V] (hstandard : KnowsStandardTypes T)
    (htypes : ∀ ty, IsTyped2718.isType T ty = (TxType.tryFrom ty).isSome)
    (hty : ∀ t : T, IsTyped2718.isType T (ty t) = true) :
    Exact (fun _ => True) RlpEncodable.encode CosmosTxType.decode ∧
    (∀ ty : CosmosTxType, RlpEncodable.length ty = (RlpEncodable.encode ty).length) ∧
    (∀ (buf rest : List UInt8) (identifier : Nat) (ty : CosmosTxType),
      (CompactTag.fromCompact buf identifier = .ok (ty, rest) ↔
        (identifier = 3 ∧ buf = ty.ty :: rest) ∨
          (identifier ≠ 3 ∧ identifier = ty.ty.toNat ∧ rest = buf)) ∧
      (identifier < 4 → CompactTag.fromCompact buf identifier = .ok (ty, rest) →
        ((identifier = (CompactTag.toCompact ty).2 ∧
            buf = (CompactTag.toCompact ty).1 ++ rest) ↔
          ¬ (identifier = 3 ∧ ty.ty < 3)))) ∧
    (∀ (value : V) (ty : CosmosTxType),
      CosmosTxType.read value = some ty ↔ readQuantity value = some ty.ty.toNat) ∧
    (∀ ty, IsTyped2718.isType (CosmosEnvelope T) ty = IsTyped2718.isType CosmosTxType ty) ∧
    (∀ ty buf rest, ∀ tx : CosmosEnvelope T, typedDecode ty buf = (.ok tx, rest) →
      IsTyped2718.isType (CosmosEnvelope T) ty = true) ∧
    ∀ tx : CosmosEnvelope T,
      ∃ own : CosmosTxType, TransactionEnvelope.txType tx = .ok own ∧ own.ty = ty tx := by
  refine ⟨CosmosTxType.rlp_exact, CosmosTxType.rlp_length, ?_, ?_, ?_, ?_, ?_⟩
  · intro buf rest identifier ty
    exact ⟨CosmosTxType.fromCompact_eq_ok_iff, CosmosTxType.canonical_of_fromCompact⟩
  · intro value ty
    exact CosmosTxType.read_eq_some_iff
  · intro ty
    rw [Bool.eq_iff_iff, CosmosEnvelope.isType_iff htypes, CosmosTxType.isType_iff]
  · intro ty buf rest tx hread
    exact (CosmosEnvelope.isType_iff htypes ty).mpr (supported_of_typedDecode hstandard hread)
  · intro tx
    have hsupported : Supported (ty tx) := by
      cases tx with
      | ethereum t =>
          have hstandard := hty t
          rw [htypes] at hstandard
          exact Or.inr hstandard
      | cosmos tx => exact Or.inl rfl
    exact ⟨⟨ty tx, hsupported⟩,
      Outcome.expect_eq_ok_iff.mpr (CosmosTxType.tryFrom_eq_ok_iff.mpr rfl), rfl⟩

namespace Sample

instance : IsTyped2718 Legacy where
  isType ty := (TxType.tryFrom ty).isSome

end Sample

open Sample in
/-- The Cosmos type in its byte, and the legacy type in a byte that is never written. -/
theorem sample_types_are_read :
    CompactTag.fromCompact [0x7e, 9] 3 = .ok (CosmosTxType.COSMOS, [9]) ∧
      CompactTag.fromCompact [0, 9] 3 = .ok (CosmosTxType.ofTxType .legacy, [9]) ∧
      CosmosTxType.read (.str ['0', 'x', '7', 'e'] : Json) = some CosmosTxType.COSMOS := by
  obtain ⟨_, _, hcompact, hread, _⟩ := types_agree_in_every_codec Legacy Json
    legacy_upstream.standard (fun _ => rfl) (fun t => by cases t; decide)
  exact ⟨(hcompact _ _ _ _).1.mpr (Or.inl ⟨rfl, rfl⟩), (hcompact _ _ _ _).1.mpr (Or.inl ⟨rfl, rfl⟩),
    (hread _ _).mpr (by decide)⟩

end RethCosmos.Primitives
