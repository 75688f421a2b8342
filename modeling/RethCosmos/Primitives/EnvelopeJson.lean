import RethCosmos.Primitives.TypeCodecs

/-!
# JSON form of the envelope

The envelope adds no tag in JSON. Reading tries the Ethereum form and, where that fails, the
Cosmos form; since neither accepts the types of the other, the order of the two does not
matter.
-/

namespace RethCosmos.Upstream

open Encoding.JsonObject CosmosAuth

/-- The members of a transaction, and their reader. -/
class TransactionJson (α V : Type) where
  toMembers : α → Members V
  ofMembers : Members V → Except String α

/-- The members that RPC does not pass on to the transaction. -/
def ownFields : List String := ["blockHash", "blockNumber", "transactionIndex", "from"]

/-- The members that RPC puts around those of a transaction. -/
def rpcFields : List String := ownFields ++ ["gasPrice"]

/-- What is documented of the JSON form of the standard transactions: what is written is read
back between the members of RPC, and a type, where there is one, is that of a standard
transaction. -/
structure TransactionJson.Documented (T V : Type) [HexForms V] [TransactionJson T V] : Prop where
  ofMembers_toMembers : ∀ (t : T) (members extra : Members V),
    members.Perm (toMembers t ++ extra) → (members.map Prod.fst).Nodup →
      (∀ m ∈ extra, m.1 ∈ rpcFields) → ofMembers members = .ok t
  own : ∀ (t : T), ∀ m ∈ (toMembers t : Members V), m.1 ∉ ownFields
  standard : ∀ (members : Members V) (t : T) (value : V),
    ofMembers members = .ok t → Has members "type" value →
      ∃ ty : TxType, readQuantity value = some ty.toU8.toNat

end RethCosmos.Upstream

namespace RethCosmos.Primitives

open Encoding Encoding.JsonObject Rust Upstream CosmosAuth
open Crypto (Suite)

variable {T V : Type} [HexForms V]

/-- `untagged`: the variants in their order. -/
instance [Suite] [TransactionJson T V] : TransactionJson (CosmosEnvelope T) V where
  toMembers
    | .ethereum t => TransactionJson.toMembers t
    | .cosmos tx => tx.toJson
  ofMembers members :=
    match (TransactionJson.ofMembers members : Except String T) with
    | .ok t => .ok (.ethereum t)
    | .error _ =>
        match CosmosSigned.ofJson members with
        | .ok tx => .ok (.cosmos tx)
        | .error _ => .error "data did not match any variant of untagged enum CosmosEnvelope"

variable [Suite]

/-! ## Types -/

/-- An object that is read as a Cosmos transaction has the Cosmos type. -/
theorem CosmosSigned.type_of_ofJson {members : Members V} {tx : CosmosSigned}
    (hread : CosmosSigned.ofJson members = .ok tx) :
    ∃ value, Has members "type" value ∧ readQuantity value = some txType.toNat := by
  obtain ⟨rpc, hrpc, htx⟩ := CosmosSigned.ofJson_eq_ok_iff.mp hread
  obtain rfl := CosmosSigned.serialize_of_deserialize htx
  simp only [CosmosSigned.Rpc.ofMembers, bind_eq_ok_iff] at hrpc
  obtain ⟨ty, htype, _, _, _, _, _, _, _, _, hdone⟩ := hrpc
  obtain ⟨value, hhas, hvalue⟩ := field_eq_ok_iff.mp htype
  have hcosmos : ty = CosmosTxType.COSMOS :=
    congrArg CosmosSigned.Rpc.txType (Except.ok.inj hdone)
  rw [CosmosTxType.read_eq_some_iff, hcosmos] at hvalue
  exact ⟨value, hhas, hvalue⟩

variable [TransactionJson T V]

/-- No object is read as both. -/
theorem ofMembers_ne_ok_of_ofJson (hdoc : TransactionJson.Documented T V) {members : Members V}
    {tx : CosmosSigned} (hread : CosmosSigned.ofJson members = .ok tx) (t : T) :
    TransactionJson.ofMembers members ≠ .ok t := by
  intro hstandard
  obtain ⟨value, hhas, hcosmos⟩ := CosmosSigned.type_of_ofJson hread
  obtain ⟨ty, hty⟩ := hdoc.standard members t value hstandard hhas
  have hsame : txType.toNat = ty.toU8.toNat := Option.some.inj (hcosmos.symm.trans hty)
  revert hsame
  cases ty <;> decide

/-! ## Variants -/

namespace CosmosEnvelope

theorem ofMembers_eq_ethereum_iff {members : Members V} {t : T} :
    TransactionJson.ofMembers members = .ok (CosmosEnvelope.ethereum t) ↔
      TransactionJson.ofMembers members = .ok t := by
  simp only [TransactionJson.ofMembers]
  cases (TransactionJson.ofMembers members : Except String T) with
  | ok t' => simp
  | error e =>
      cases CosmosSigned.ofJson members with
      | ok tx => simp
      | error e => simp

/-- The form that is tried first takes no Cosmos transaction away. -/
theorem ofMembers_eq_cosmos_iff (hdoc : TransactionJson.Documented T V) {members : Members V}
    {tx : CosmosSigned} :
    TransactionJson.ofMembers members = .ok (CosmosEnvelope.cosmos (T := T) tx) ↔
      CosmosSigned.ofJson members = .ok tx := by
  constructor
  · intro hread
    simp only [TransactionJson.ofMembers] at hread
    split at hread
    next => simp at hread
    next =>
      split at hread
      next tx' hcosmos =>
        rw [hcosmos]
        exact congrArg Except.ok (CosmosEnvelope.cosmos.inj (Except.ok.inj hread))
      next => simp at hread
  · intro hread
    -- the upstream reader is asked first, and fails
    have hfails := ofMembers_ne_ok_of_ofJson (T := T) hdoc hread
    simp only [TransactionJson.ofMembers, hread]
    cases hfirst : (TransactionJson.ofMembers members : Except String T) with
    | ok t => exact absurd hfirst (hfails t)
    | error e => rfl

end CosmosEnvelope

end RethCosmos.Primitives
