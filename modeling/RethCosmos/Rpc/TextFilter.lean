import RethCosmos.Primitives.Sample
import RethCosmos.Rpc.Handler

/-!
# The filter on the text of a request

Size and first characters are checked on the text, size and type byte again on the bytes.
The sizes agree for every spelling. The first characters do not: the digit of fourteen
has two spellings, and the filter knows one of them.
-/

namespace RethCosmos.Rpc

open Encoding Rust CosmosAuth

/-! ## Texts of hexadecimal digits -/

theorem utf8_length_of_decode {digits : Text} {bytes : List UInt8}
    (hread : Hex.decode digits = some bytes) : (utf8 digits).length = 2 * bytes.length := by
  have hascii : ∀ {ch : Char} {d : Nat}, Hex.value ch = some d →
      (String.utf8EncodeChar ch).length = 1 := by
    intro ch d hvalue
    have hlt := Hex.toNat_lt_of_value hvalue
    rw [String.length_utf8EncodeChar, Char.utf8Size_eq_one_iff, UInt32.le_iff_toNat_le]
    exact Nat.le_of_lt_succ hlt
  induction digits using Hex.decode.induct generalizing bytes with
  | case1 =>
      obtain rfl : bytes = [] := by simpa [Hex.decode] using hread.symm
      rfl
  | case2 ch => simp [Hex.decode] at hread
  | case3 high low rest ih =>
      obtain ⟨h, l, tail, hhigh, hlow, htail, rfl⟩ := Hex.decode_cons_eq_some_iff.mp hread
      have hrest := ih htail
      simp only [utf8, List.flatMap_cons, List.length_append, hascii hhigh, hascii hlow,
        List.length_cons] at hrest ⊢
      omega

/-- A text has the Cosmos type byte in front exactly in its two spellings. -/
theorem head_eq_txType_iff {digits : Text} {bytes : List UInt8}
    (hread : Hex.decode digits = some bytes) :
    bytes.head? = some txType ↔ ['7', 'e'] <+: digits ∨ ['7', 'E'] <+: digits := by
  match digits, hread with
  | [], hread =>
      obtain rfl : bytes = [] := by simpa [Hex.decode] using hread.symm
      simp
  | [ch], hread => simp [Hex.decode] at hread
  | high :: low :: rest, hread =>
      obtain ⟨h, l, tail, hhigh, hlow, _, rfl⟩ := Hex.decode_cons_eq_some_iff.mp hread
      have hh := Hex.value_lt hhigh
      have hl := Hex.value_lt hlow
      have hbyte : UInt8.ofNat (h * 16 + l) = txType ↔ h = 7 ∧ l = 14 := by
        rw [← UInt8.toNat_inj, UInt8.toNat_ofNat', show txType.toNat = 126 from rfl]
        omega
      have hseven := @Hex.value_eq_seven_iff high
      have hfourteen := @Hex.value_eq_fourteen_iff low
      rw [hhigh, Option.some.injEq] at hseven
      rw [hlow, Option.some.injEq] at hfourteen
      simp only [List.head?_cons, Option.some.injEq, hbyte, hseven, hfourteen, List.cons_prefix_cons,
        List.nil_prefix, and_true]
      constructor
      · intro hdigits
        obtain ⟨rfl, rfl | rfl⟩ := hdigits
        · exact Or.inl ⟨rfl, rfl⟩
        · exact Or.inr ⟨rfl, rfl⟩
      · intro hdigits
        obtain ⟨rfl, rfl⟩ | ⟨rfl, rfl⟩ := hdigits
        · exact ⟨rfl, Or.inl rfl⟩
        · exact ⟨rfl, Or.inr rfl⟩

/-- The two size limits are one limit. -/
theorem checkText_digits_iff {digits : Text} {bytes : List UInt8}
    (hread : Hex.decode digits = some bytes) :
    checkText ('0' :: 'x' :: digits) = .ok () ↔
      bytes.length ≤ maxRawTx ∧ ['7', 'e'] <+: digits := by
  have hdigits := utf8_length_of_decode hread
  have hprefix : utf8 ('0' :: 'x' :: digits) = 0x30 :: 0x78 :: utf8 digits := rfl
  rw [checkText_eq_ok_iff, hprefix, List.length_cons, List.length_cons, hdigits, typeText,
    List.cons_prefix_cons, List.cons_prefix_cons]
  simp only [true_and, and_congr_left_iff]
  omega

/-! ## The filter and the decoder -/

/-- What the wire decoder accepts has the right size and type byte. -/
theorem size_and_type_of_decodeWire {raw : List UInt8}
    (hwire : ∃ parts, decodeWire raw = .ok parts) :
    raw.length ≤ maxRawTx ∧ raw.head? = some txType := by
  obtain ⟨⟨op, key, signature⟩, hread⟩ := hwire
  obtain ⟨hlimits, rfl⟩ := decodeWire_eq_ok_iff.mp hread
  exact ⟨hlimits.encodeWire_length_le key signature, rfl⟩

theorem prepare_digits_iff {free total : Nat} (hfree : 0 < free) (hroom : total < maxPoolTotal)
    {digits : Text} {raw : List UInt8} (hread : Hex.decode digits = some raw) :
    prepare free total (.ok ('0' :: 'x' :: digits)) = .ok raw ↔
      ['7', 'e'] <+: digits ∧ ∃ parts, decodeWire raw = .ok parts := by
  rw [prepare_eq_ok_iff]
  constructor
  · intro h
    obtain ⟨_, text, htext, hcheck, _, _, hwire⟩ := h
    obtain rfl := Except.ok.inj htext
    exact ⟨((checkText_digits_iff hread).mp hcheck).2, hwire⟩
  · intro h
    have hsize := (size_and_type_of_decodeWire h.2).1
    exact ⟨hfree, _, rfl, (checkText_digits_iff hread).mpr ⟨hsize, h.1⟩, hroom, hread, h.2⟩

/-- With a permit and room in the pool, the handler passes on exactly what the wire decoder
accepts, unless it accepts a text that writes the type byte with a capital letter. -/
theorem text_filter_agrees_unless_capital
    (sendRawTransaction : List UInt8 → Except String B256) (free total : Nat) (hfree : 0 < free)
    (hroom : total < maxPoolTotal) (digits : Text) (raw : List UInt8)
    (hread : Hex.decode digits = some raw) :
    ((handle sendRawTransaction free total (.ok ('0' :: 'x' :: digits))).sent = [raw] ↔
        ∃ parts, decodeWire raw = .ok parts) ↔
      ¬ (['7', 'E'] <+: digits ∧ ∃ parts, decodeWire raw = .ok parts) := by
  rw [handle_sent_iff, prepare_digits_iff hfree hroom hread]
  by_cases hwire : ∃ parts, decodeWire raw = .ok parts
  · have hhead := (size_and_type_of_decodeWire hwire).2
    rw [head_eq_txType_iff hread] at hhead
    have hexclusive : ¬ (['7', 'e'] <+: digits ∧ ['7', 'E'] <+: digits) := by
      intro hboth
      obtain ⟨⟨rest, rfl⟩, hcapital⟩ := hboth
      simp at hcapital
    simp only [hwire, and_true, iff_true]
    constructor
    · intro hlower hcapital
      exact hexclusive ⟨hlower, hcapital⟩
    · intro hcapital
      exact hhead.resolve_right hcapital
  · simp [hwire]

/-! ## Both sides of the condition -/

section

open Primitives

/-- A transaction spelled with lower-case digits. -/
def sampleRaw : List UInt8 :=
  encodeWire Sample.operation Sample.publicKey.data Sample.scalars.data

/-- The same bytes, the type byte spelled with a capital letter. -/
def capitalDigits : Text := '7' :: 'E' :: Hex.encode sampleRaw.tail

/-- The usual text of the same bytes. -/
def sampleText : Text := '0' :: 'x' :: Hex.encode sampleRaw

theorem encode_sampleRaw : Hex.encode sampleRaw = '7' :: 'e' :: Hex.encode sampleRaw.tail := by
  have hhigh : Nat.digitChar (txType.toNat / 16) = '7' := rfl
  have hlow : Nat.digitChar (txType.toNat % 16) = 'e' := rfl
  rw [sampleRaw, encodeWire, List.tail_cons, Hex.encode_cons, hhigh, hlow]

theorem decodeWire_sampleRaw : ∃ parts, decodeWire sampleRaw = .ok parts :=
  ⟨_, decodeWire_encodeWire Sample.operation_withinLimits Sample.publicKey Sample.scalars⟩

theorem decode_capitalDigits : Hex.decode capitalDigits = some sampleRaw := by
  apply Hex.decode_cons_eq_some_iff.mpr
  refine ⟨7, 14, sampleRaw.tail, rfl, rfl, Hex.decode_encode sampleRaw.tail, ?_⟩
  rw [sampleRaw, encodeWire, List.tail_cons]
  rfl

theorem prepare_sampleText : prepare maxPermits 0 (.ok sampleText) = .ok sampleRaw := by
  apply (prepare_digits_iff (by decide) (by decide) (Hex.decode_encode sampleRaw)).mpr
  refine ⟨?_, decodeWire_sampleRaw⟩
  rw [encode_sampleRaw]
  simp only [List.cons_prefix_cons, List.nil_prefix, true_and]

/-- The wire decoder accepts the bytes, and the handler does not pass them on. -/
theorem capital_type_byte_is_refused :
    Hex.decode capitalDigits = some sampleRaw ∧ (∃ parts, decodeWire sampleRaw = .ok parts) ∧
      0 < maxPermits ∧ 0 < maxPoolTotal ∧
      ¬ ((handle (fun _ => .error "") maxPermits 0 (.ok ('0' :: 'x' :: capitalDigits))).sent =
          [sampleRaw] ↔ ∃ parts, decodeWire sampleRaw = .ok parts) := by
  refine ⟨decode_capitalDigits, decodeWire_sampleRaw, by decide, by decide, ?_⟩
  rw [handle_sent_iff, prepare_digits_iff (by decide) (by decide) decode_capitalDigits,
    iff_true_right decodeWire_sampleRaw, capitalDigits, List.cons_prefix_cons,
    List.cons_prefix_cons]
  intro hsent
  exact absurd hsent.1.2.1 (by decide)

/-- The usual spelling is passed on. -/
theorem lower_type_byte_is_passed_on :
    ((handle (fun _ => .error "") maxPermits 0
          (.ok ('0' :: 'x' :: Hex.encode sampleRaw))).sent = [sampleRaw] ↔
        ∃ parts, decodeWire sampleRaw = .ok parts) ↔
      ¬ (['7', 'E'] <+: Hex.encode sampleRaw ∧ ∃ parts, decodeWire sampleRaw = .ok parts) :=
  text_filter_agrees_unless_capital (fun _ => .error "") maxPermits 0 (by decide) (by decide) _ _
    (Hex.decode_encode sampleRaw)

end

end RethCosmos.Rpc
