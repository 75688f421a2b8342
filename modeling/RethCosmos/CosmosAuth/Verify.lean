import RethCosmos.CosmosAuth.SignDoc
import RethCosmos.Crypto.Secp256k1

/-!
# Authorization

The decision whether an operation is authorized by a key and a signature. It passes
through five stages, each of which has its own error and relies on the ones before it.
-/

namespace RethCosmos.CosmosAuth

open Encoding Rust Crypto

variable [Suite]

def chainId : U64 := 366036

def genesisHash : B256 :=
  FixedBytes.ofNat 32 0x09171e117af661185d9a4a4ff7cf83d29b4b99893bc95b204c0e6e0a6d6a5272

/-- The account of a public key. -/
def keyAddress (key : List UInt8) : Address := Suite.ripemd160 (Suite.sha256 key).data

def deriveSender (key : List UInt8) : Outcome AuthError Address := do
  if key.length ≠ 33 then
    Outcome.err .publicKey
  let tag ← Outcome.index key 0
  if ¬ (tag = 2 ∨ tag = 3) then
    Outcome.err .publicKey
  let _ ← Outcome.okOr (Suite.fromSec1Bytes key) .publicKey
  return keyAddress key

def Operation.verify (op : Operation) (key signature : List UInt8) (genesis : B256) :
    Outcome AuthError Address := do
  Outcome.ofExcept op.validateLimits
  if op.chainId ≠ CosmosAuth.chainId ∨ op.genesisHash ≠ genesis then
    Outcome.err .domain
  let sender ← deriveSender key
  if op.sender ≠ sender then
    Outcome.err .sender
  let signature ← Outcome.okOr (Signature.fromSlice signature) .signature
  if signature.normalizeS.isSome then
    Outcome.err .signature
  let key ← Outcome.okOr (Suite.fromSec1Bytes key) .publicKey
  if ¬ Suite.verify key op.signBytes signature then
    Outcome.err .signature
  return sender

/-! ## Stages -/

/-- A compressed encoding of a curve point. -/
def ValidKey (key : List UInt8) : Prop :=
  key.length = 33 ∧ (key.head? = some 2 ∨ key.head? = some 3) ∧ (Suite.fromSec1Bytes key).isSome

namespace Operation

def InDomain (op : Operation) (genesis : B256) : Prop :=
  op.chainId = CosmosAuth.chainId ∧ op.genesisHash = genesis

/-- The signature is the encoding of a pair of nonzero scalars, the second of them low,
that verifies for the sign document. -/
def ValidSignature (op : Operation) (key signature : List UInt8) : Prop :=
  ∃ (point : Suite.VerifyingKey) (scalars : Signature), Suite.fromSec1Bytes key = some point ∧
    signature.length = 64 ∧ ofBe (signature.take 32) = scalars.r ∧
    ofBe (signature.drop 32) = scalars.s ∧ scalars.s ≤ (order - 1) / 2 ∧
    Suite.verify point op.signBytes scalars

/-- All five stages. -/
structure Authorized (op : Operation) (publicKey signature : List UInt8) (genesis : B256) :
    Prop where
  limits : op.WithinLimits
  domain : op.InDomain genesis
  key : ValidKey publicKey
  sender : op.sender = keyAddress publicKey
  signature : op.ValidSignature publicKey signature

end Operation

/-- The length test guards the index, so a key is turned away and never a panic. -/
theorem deriveSender_eq (key : List UInt8) :
    (ValidKey key ∧ deriveSender key = .ok (keyAddress key)) ∨
      (¬ ValidKey key ∧ deriveSender key = .err .publicKey) := by
  by_cases hlength : key.length = 33
  · obtain ⟨tag, rest, rfl⟩ : ∃ tag rest, key = tag :: rest := by
      cases key with
      | nil => simp at hlength
      | cons tag rest => exact ⟨tag, rest, rfl⟩
    by_cases htag : tag = 2 ∨ tag = 3
    · cases hpoint : Suite.fromSec1Bytes (tag :: rest) with
      | none =>
          right
          refine ⟨fun h => by simp [ValidKey, hpoint] at h, ?_⟩
          rcases htag with rfl | rfl <;>
            simp [deriveSender, hlength, Outcome.index, Outcome.okOr, hpoint]
      | some point =>
          left
          refine ⟨⟨hlength, by simpa using htag, by simp [hpoint]⟩, ?_⟩
          rcases htag with rfl | rfl <;>
            simp [deriveSender, hlength, Outcome.index, Outcome.okOr, hpoint]
    · right
      refine ⟨fun h => htag (by simpa using h.2.1), ?_⟩
      simp [deriveSender, hlength, Outcome.index, not_or.mp htag]
  · right
    exact ⟨fun h => hlength h.1, by simp [deriveSender, hlength]⟩

namespace Operation

theorem validSignature_iff {op : Operation} {key signature : List UInt8}
    {point : Suite.VerifyingKey} (hpoint : Suite.fromSec1Bytes key = some point) :
    op.ValidSignature key signature ↔
      ∃ scalars, Signature.fromSlice signature = some scalars ∧
        ¬ scalars.normalizeS.isSome ∧ Suite.verify point op.signBytes scalars := by
  simp only [ValidSignature, hpoint, Option.some.injEq, Signature.fromSlice_eq_some_iff,
    Signature.normalizeS_isSome_iff, Nat.not_lt, and_assoc, exists_and_left, exists_eq_left']

open Classical in
/-- The decision, stage by stage: the error is that of the first stage that fails. -/
theorem verify_eq (op : Operation) (key signature : List UInt8) (genesis : B256) :
    op.verify key signature genesis =
      if ¬ op.WithinLimits then .err .limit
      else if ¬ op.InDomain genesis then .err .domain
      else if ¬ ValidKey key then .err .publicKey
      else if op.sender ≠ keyAddress key then .err .sender
      else if ¬ op.ValidSignature key signature then .err .signature
      else .ok op.sender := by
  -- each stage is decided in turn, and its error ends the evaluation
  by_cases hlimits : op.WithinLimits
  case neg =>
    have hlimit : op.validateLimits = .error .limit :=
      op.validateLimits_eq.resolve_left (mt validateLimits_eq_ok_iff.mp hlimits)
    simp [verify, hlimit, Outcome.ofExcept, hlimits]
  have hok := validateLimits_eq_ok_iff.mpr hlimits
  by_cases hdomain : op.InDomain genesis
  case neg =>
    have hwrong : op.chainId ≠ CosmosAuth.chainId ∨ op.genesisHash ≠ genesis :=
      Decidable.not_and_iff_or_not.mp hdomain
    simp only [verify, hok, Outcome.ofExcept, Outcome.ok_bind, hwrong, if_true, Outcome.err_bind,
      hlimits, not_true_eq_false, if_false, hdomain, not_false_eq_true]
  have hright : ¬ (op.chainId ≠ CosmosAuth.chainId ∨ op.genesisHash ≠ genesis) := by
    intro hwrong
    rcases hwrong with hchain | hgenesis
    · exact hchain hdomain.1
    · exact hgenesis hdomain.2
  simp only [verify, hok, Outcome.ofExcept, Outcome.ok_bind, hright, if_false, hlimits, hdomain,
    not_true_eq_false, Outcome.pure_eq_ok]
  rcases deriveSender_eq key with ⟨hkey, hsender⟩ | ⟨hkey, hsender⟩
  case inr => simp only [hsender, Outcome.err_bind, hkey, not_false_eq_true, if_true]
  simp only [hsender, Outcome.ok_bind, hkey, not_true_eq_false, if_false]
  by_cases hown : op.sender = keyAddress key
  case neg => simp only [hown, ne_eq, not_false_eq_true, if_true, Outcome.err_bind]
  obtain ⟨point, hpoint⟩ := Option.isSome_iff_exists.mp hkey.2.2
  simp only [hown, ne_eq, not_true_eq_false, if_false, Outcome.ok_bind,
    validSignature_iff hpoint, hpoint, Outcome.okOr]
  cases hread : Signature.fromSlice signature with
  | none => simp
  | some scalars =>
      cases hhigh : scalars.normalizeS with
      | some low => simp [hhigh]
      | none => by_cases hvalid : Suite.verify point op.signBytes scalars <;> simp [hhigh, hvalid]

theorem verify_eq_ok_iff {op : Operation} {key signature : List UInt8} {genesis : B256}
    {a : Address} :
    op.verify key signature genesis = .ok a ↔
      op.Authorized key signature genesis ∧ a = op.sender := by
  rw [verify_eq]
  constructor
  · intro hok
    split_ifs at hok with hlimits hdomain hkey hown hvalid
    obtain rfl := Outcome.ok.inj hok
    exact ⟨⟨hlimits, hdomain, hkey, not_not.mp hown, hvalid⟩, rfl⟩
  · intro hauthorized
    obtain ⟨⟨hlimits, hdomain, hkey, hown, hvalid⟩, rfl⟩ := hauthorized
    simp only [hlimits, hdomain, hkey, hown, hvalid, ne_eq, not_true_eq_false, if_false]

theorem verify_ne_panic (op : Operation) (key signature : List UInt8) (genesis : B256)
    (message : String) : op.verify key signature genesis ≠ .panic message := by
  rw [verify_eq]
  split_ifs <;> simp

/-- Everything but the signature is as authorized, so the failing stage is the last one. -/
theorem Authorized.verify_malleate {op : Operation} {key signature : List UInt8} {genesis : B256}
    (h : op.Authorized key signature genesis) :
    op.verify key (Signature.malleate signature) genesis = .err .signature := by
  obtain ⟨hlimits, hdomain, hkey, hown, hvalid⟩ := h
  have hinvalid : ¬ op.ValidSignature key (Signature.malleate signature) := by
    intro hmalleated
    obtain ⟨_, low, _, hlength, hr, hs, hlow, _⟩ := hvalid
    obtain ⟨_, high, _, hlength', hr', hs', hhigh, _⟩ := hmalleated
    have hread := Signature.fromSlice_eq_some_iff.mpr ⟨hlength, hr, hs⟩
    have hread' := Signature.fromSlice_eq_some_iff.mpr ⟨hlength', hr', hs'⟩
    exact absurd (Signature.high_of_malleate hread hlow hread') (Nat.not_lt.mpr hhigh)
  rw [verify_eq]
  simp only [hlimits, hdomain, hkey, hown, hinvalid, ne_eq, not_true_eq_false, not_false_eq_true,
    if_false, if_true]

end Operation

/-- Verification accepts the authorized operations and nothing else, reports the first
stage that fails and never panics. Negating the second scalar of an accepted signature
gives one that is rejected. -/
theorem verify_accepts_exactly_authorized_operations (op : Operation)
    (key signature : List UInt8) (genesis : B256) :
    (∀ message, op.verify key signature genesis ≠ .panic message) ∧
    (∀ a, op.verify key signature genesis = .ok a ↔
      (op.validateLimits = .ok () ∧ (op.chainId = CosmosAuth.chainId ∧ op.genesisHash = genesis) ∧
        ValidKey key ∧ op.sender = keyAddress key ∧ op.ValidSignature key signature) ∧
      a = op.sender) ∧
    (op.validateLimits ≠ .ok () → op.verify key signature genesis = .err .limit) ∧
    (op.validateLimits = .ok () → ¬ op.InDomain genesis →
      op.verify key signature genesis = .err .domain) ∧
    (op.validateLimits = .ok () → op.InDomain genesis → ¬ ValidKey key →
      op.verify key signature genesis = .err .publicKey) ∧
    (op.validateLimits = .ok () → op.InDomain genesis → ValidKey key →
      op.sender ≠ keyAddress key → op.verify key signature genesis = .err .sender) ∧
    (op.validateLimits = .ok () → op.InDomain genesis → ValidKey key →
      op.sender = keyAddress key → ¬ op.ValidSignature key signature →
      op.verify key signature genesis = .err .signature) ∧
    (∀ a, op.verify key signature genesis = .ok a →
      op.verify key (Signature.malleate signature) genesis = .err .signature) := by
  simp only [ne_eq, Operation.validateLimits_eq_ok_iff]
  refine ⟨op.verify_ne_panic key signature genesis, ?_, ?_, ?_, ?_, ?_, ?_, ?_⟩
  · intro a
    rw [Operation.verify_eq_ok_iff]
    apply and_congr_left'
    constructor
    · intro h
      exact ⟨h.limits, h.domain, h.key, h.sender, h.signature⟩
    · intro h
      exact ⟨h.1, h.2.1, h.2.2.1, h.2.2.2.1, h.2.2.2.2⟩
  · intro hlimits
    rw [Operation.verify_eq, if_pos hlimits]
  · intro hlimits hdomain
    rw [Operation.verify_eq, if_neg (not_not.mpr hlimits), if_pos hdomain]
  · intro hlimits hdomain hkey
    rw [Operation.verify_eq, if_neg (not_not.mpr hlimits), if_neg (not_not.mpr hdomain),
      if_pos hkey]
  · intro hlimits hdomain hkey hown
    rw [Operation.verify_eq, if_neg (not_not.mpr hlimits), if_neg (not_not.mpr hdomain),
      if_neg (not_not.mpr hkey), if_pos hown]
  · intro hlimits hdomain hkey hown hvalid
    rw [Operation.verify_eq, if_neg (not_not.mpr hlimits), if_neg (not_not.mpr hdomain),
      if_neg (not_not.mpr hkey), if_neg (not_not.mpr hown), if_pos hvalid]
  · intro a hok
    exact (Operation.verify_eq_ok_iff.mp hok).1.verify_malleate

end RethCosmos.CosmosAuth
