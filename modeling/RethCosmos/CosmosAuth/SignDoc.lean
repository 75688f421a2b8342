import RethCosmos.CosmosAuth.Wire
import RethCosmos.Encoding.Base64
import RethCosmos.Encoding.Bech32
import RethCosmos.Encoding.Json

/-!
# Sign documents

The ADR-036 document an account signs. It is a fixed text around the base64 of the
payload and the Bech32 sender, and it binds every field of the operation: neither
variable part can end its string early, and base64 and the payload are injective.
-/

namespace RethCosmos.CosmosAuth

open Encoding

theorem checkHrp_cosmos : Bech32.checkHrp "cosmos".toList := by decide

/-- The Bech32 text of an account. The fixed human-readable part is accepted, so the
encoder's `expect` has nothing to report. -/
def cosmosAddress (sender : Address) : List Char :=
  (Bech32.encode "cosmos".toList (Bech32.toBase32 sender.data)).get
    (Bech32.encode_isSome_iff.mpr checkHrp_cosmos)

/-- The document in source order, which is the order of the sorted keys. -/
def signDoc (data signer : List Char) : Json :=
  .obj [
    ("account_number", .str "0".toList),
    ("chain_id", .str []),
    ("fee", .obj [("amount", .arr []), ("gas", .str "0".toList)]),
    ("memo", .str []),
    ("msgs", .arr [.obj [
      ("type", .str "sign/MsgSignData".toList),
      ("value", .obj [("data", .str data), ("signer", .str signer)])]]),
    ("sequence", .str "0".toList)]

namespace Operation

/-- Sorted ASCII JSON keys, no whitespace; ADR-036 Amino sign document. -/
def signBytes (op : Operation) : List UInt8 :=
  utf8 ((signDoc (Base64.encode op.payload) (cosmosAddress op.sender)).render Json.escapeControl)

end Operation

/-! ## The fixed text -/

def docHead : List Char :=
  ("\x7b\"account_number\":\"0\",\"chain_id\":\"\",\"fee\":\x7b\"amount\":[],\"gas\":\"0\"\x7d," ++
    "\"memo\":\"\",\"msgs\":[\x7b\"type\":\"sign/MsgSignData\",\"value\":\x7b\"data\":\"").toList

def docMiddle : List Char := "\",\"signer\":\"".toList

def docTail : List Char := "\"\x7d\x7d],\"sequence\":\"0\"\x7d".toList

set_option maxRecDepth 4000 in
/-- Around plain text the document is the fixed text, for any serializer that leaves
plain characters alone. -/
theorem render_signDoc {escape : Char → List Char}
    (hescape : ∀ ch, Json.Plain ch → escape ch = [ch]) {data signer : List Char}
    (hdata : ∀ ch ∈ data, Json.Plain ch) (hsigner : ∀ ch ∈ signer, Json.Plain ch) :
    (signDoc data signer).render escape =
      docHead ++ data ++ docMiddle ++ signer ++ docTail := by
  have hquote : ∀ {text : List Char}, (∀ ch ∈ text, Json.Plain ch) →
      Json.quote escape text = '"' :: (text ++ ['"']) :=
    fun hplain => Json.quote_of_plain fun ch hch => hescape ch (hplain ch hch)
  have hfixed : ∀ {text : List Char}, text.all (fun ch => decide (Json.Plain ch)) = true →
      Json.quote escape text = '"' :: (text ++ ['"']) :=
    fun hall => hquote (Json.plain_of_all hall)
  simp only [signDoc, Json.render, Json.renderMembers, Json.renderItems, hquote hdata,
    hquote hsigner]
  simp (disch := decide) only [hfixed]
  simp only [List.append_assoc, List.cons_append]
  rfl

/-! ## The variable text -/

theorem base64_plain {bytes : List UInt8} : ∀ ch ∈ Base64.encode bytes, Json.Plain ch := by
  have halphabet : ∀ ch ∈ Base64.alphabet, Json.Plain ch := Json.plain_of_all (by decide)
  intro ch hch
  rcases Base64.mem_of_mem_encode hch with hdigit | rfl
  · exact halphabet ch hdigit
  · decide

theorem cosmosAddress_plain {sender : Address} : ∀ ch ∈ cosmosAddress sender, Json.Plain ch := by
  have hhrp : ∀ ch ∈ "cosmos".toList.map Char.toLower, Json.Plain ch :=
    Json.plain_of_all (by decide)
  have hcharset : ∀ ch ∈ Bech32.charset, Json.Plain ch := Json.plain_of_all (by decide)
  intro ch hch
  have hencode : Bech32.encode "cosmos".toList (Bech32.toBase32 sender.data) =
      some (cosmosAddress sender) := by simp [cosmosAddress]
  rcases Bech32.mem_of_mem_encode hencode hch with hmem | rfl | hmem
  · exact hhrp ch hmem
  · decide
  · exact hcharset ch hmem

theorem Operation.signBytes_eq (op : Operation) :
    op.signBytes = utf8 (docHead ++ Base64.encode op.payload ++ docMiddle ++
      cosmosAddress op.sender ++ docTail) :=
  congrArg utf8 (render_signDoc (fun _ => Json.escapeControl_of_plain) base64_plain
    cosmosAddress_plain)

/-- Text up to the closing quote of a plain string is that string. -/
theorem takeWhile_quote {text rest : List Char} (hplain : ∀ ch ∈ text, Json.Plain ch) :
    (text ++ '"' :: rest).takeWhile (· ≠ '"') = text := by
  have hnot : ∀ ch ∈ text, decide (ch ≠ '"') = true := by
    intro ch hch
    obtain ⟨_, _, hspecial⟩ := hplain ch hch
    simp only [List.mem_cons, not_or] at hspecial
    exact decide_eq_true hspecial.1
  rw [List.takeWhile_append_of_pos hnot]
  simp

/-! ## Injectivity -/

/-- The fields are the rest of the list after the protocol name and the version. -/
theorem Operation.payload_injective : Function.Injective Operation.payload := by
  intro a b heq
  have ha := Rlp.decode_encodeList a.payloadItems_length_lt []
  have hb := Rlp.decode_encodeList b.payloadItems_length_lt []
  have hread := ha.symm.trans ((congrArg (fun body => Rlp.Header.decode (body ++ [])) heq).trans hb)
  simp only [List.append_nil, Except.ok.injEq, Prod.mk.injEq] at hread
  -- the first two items are the same in every payload
  have hfields : a.fields = b.fields := List.append_cancel_left hread.2
  exact decodeFields_complete.inj trivial trivial hfields

theorem Operation.signBytes_injective : Function.Injective Operation.signBytes := by
  intro a b heq
  rw [a.signBytes_eq, b.signBytes_eq] at heq
  have htext := utf8_injective heq
  simp only [List.append_assoc, List.append_cancel_left_eq] at htext
  -- the data ends at the first quote, which opens the fixed text around the signer
  have hdata := congrArg (List.takeWhile (· ≠ '"')) htext
  have hmiddle : docMiddle = '"' :: docMiddle.tail := by decide
  rw [hmiddle, List.cons_append, List.cons_append, takeWhile_quote base64_plain,
    takeWhile_quote base64_plain] at hdata
  exact Operation.payload_injective (Base64.encode_injective hdata)

/-- A signature over the document binds all ten fields: the two variable strings neither
need an escape nor end early, and neither they nor the payload lose a field. -/
theorem sign_document_binds_every_field :
    (∀ a b : Operation, a.signBytes = b.signBytes → a = b) ∧
    (∀ a b : Operation, a.payload = b.payload → a = b) ∧
    (∀ op : Operation,
      op.signBytes = utf8 (docHead ++ Base64.encode op.payload ++ docMiddle ++
        cosmosAddress op.sender ++ docTail) ∧
      ∀ ch ∈ Base64.encode op.payload ++ cosmosAddress op.sender,
        ch ≠ '"' ∧ Json.escapeControl ch = [ch]) := by
  refine ⟨?_, ?_, ?_⟩
  · intro a b heq
    exact Operation.signBytes_injective heq
  · intro a b heq
    exact Operation.payload_injective heq
  intro op
  refine ⟨op.signBytes_eq, ?_⟩
  intro ch hch
  have hplain : Json.Plain ch := by
    rcases List.mem_append.mp hch with hdata | hsigner
    · exact base64_plain ch hdata
    · exact cosmosAddress_plain ch hsigner
  refine ⟨?_, Json.escapeControl_of_plain hplain⟩
  intro hquote
  rw [hquote] at hplain
  exact absurd hplain (by decide)

end RethCosmos.CosmosAuth
