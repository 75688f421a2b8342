import RethCosmos.Encoding.BigEndian

/-!
# Hexadecimal text

Byte strings as pairs of digits, and positive numbers as minimal digits padded to an
even count. The pairs of a padded number are the bytes of its trimmed numeral.
-/

namespace RethCosmos.Encoding.Hex

/-- The value of a digit of either case. -/
def value (ch : Char) : Option Nat :=
  if 0x30 ≤ ch.toNat ∧ ch.toNat ≤ 0x39 then some (ch.toNat - 0x30)
  else if 0x61 ≤ ch.toNat ∧ ch.toNat ≤ 0x66 then some (ch.toNat - 0x61 + 10)
  else if 0x41 ≤ ch.toNat ∧ ch.toNat ≤ 0x46 then some (ch.toNat - 0x41 + 10)
  else none

def encode (bytes : List UInt8) : List Char :=
  bytes.flatMap fun b => [Nat.digitChar (b.toNat / 16), Nat.digitChar (b.toNat % 16)]

def decode : List Char → Option (List UInt8)
  | [] => some []
  | [_] => none
  | high :: low :: rest => do
      let high ← value high
      let low ← value low
      let rest ← decode rest
      return UInt8.ofNat (high * 16 + low) :: rest

/-- The digits of a number, with a zero in front where their count is odd. -/
def natDigits (n : Nat) : List Char :=
  if (Nat.toDigits 16 n).length % 2 = 1 then '0' :: Nat.toDigits 16 n else Nat.toDigits 16 n

theorem value_digitChar {n : Nat} (hn : n < 16) : value (Nat.digitChar n) = some n := by
  have hall : ∀ d : Fin 16, value (Nat.digitChar d) = some d.val := by decide
  exact hall ⟨n, hn⟩

theorem encode_cons (b : UInt8) (rest : List UInt8) :
    encode (b :: rest) =
      Nat.digitChar (b.toNat / 16) :: Nat.digitChar (b.toNat % 16) :: encode rest := rfl

theorem decode_encode (bytes : List UInt8) : decode (encode bytes) = some bytes := by
  induction bytes with
  | nil => rfl
  | cons b rest ih =>
      have hb := b.toNat_lt
      have hbyte : UInt8.ofNat (b.toNat / 16 * 16 + b.toNat % 16) = b := by
        rw [Nat.div_add_mod', UInt8.ofNat_toNat]
      rw [encode_cons, decode, value_digitChar (by omega), value_digitChar (by omega), ih]
      simp only [Option.bind_eq_bind, Option.bind_some, hbyte]
      rfl

/-- Digits are ASCII. -/
theorem toNat_lt_of_value {ch : Char} {d : Nat} (h : value ch = some d) : ch.toNat < 0x80 := by
  unfold value at h
  split at h
  next hdigit => omega
  next =>
    split at h
    next hlower => omega
    next =>
      split at h
      next hupper => omega
      next => simp at h

theorem value_eq_seven_iff {ch : Char} : value ch = some 7 ↔ ch = '7' := by
  rw [← Char.toNat_inj, show ('7' : Char).toNat = 0x37 from rfl]
  unfold value
  split_ifs <;> simp <;> omega

/-- Fourteen is the one digit of a type byte with two spellings. -/
theorem value_eq_fourteen_iff {ch : Char} : value ch = some 14 ↔ ch = 'e' ∨ ch = 'E' := by
  rw [← Char.toNat_inj, ← Char.toNat_inj, show ('e' : Char).toNat = 0x65 from rfl,
    show ('E' : Char).toNat = 0x45 from rfl]
  unfold value
  split_ifs <;> simp <;> omega

theorem value_lt {ch : Char} {d : Nat} (h : value ch = some d) : d < 16 := by
  unfold value at h
  split_ifs at h <;> simp at h <;> omega

theorem decode_cons_eq_some_iff {high low : Char} {rest : List Char} {bytes : List UInt8} :
    decode (high :: low :: rest) = some bytes ↔
      ∃ h l tail, value high = some h ∧ value low = some l ∧ decode rest = some tail ∧
        bytes = UInt8.ofNat (h * 16 + l) :: tail := by
  simp only [decode, Option.bind_eq_bind, Option.bind_eq_some_iff, Option.pure_def,
    Option.some.injEq]
  constructor
  · intro hread
    obtain ⟨h, hhigh, l, hlow, tail, htail, rfl⟩ := hread
    exact ⟨h, l, tail, hhigh, hlow, htail, rfl⟩
  · intro hread
    obtain ⟨h, l, tail, hhigh, hlow, htail, rfl⟩ := hread
    exact ⟨h, hhigh, l, hlow, tail, htail, rfl⟩

theorem encode_append (front back : List UInt8) :
    encode (front ++ back) = encode front ++ encode back :=
  List.flatMap_append

/-! ## Numbers -/

/-- The last byte comes off the end of a trimmed numeral. -/
theorem trimmedBe_succ {w n : Nat} (hpos : 0 < n) (hn : n < 256 ^ (w + 1)) :
    trimmedBe (w + 1) n = trimmedBe w (n / 256) ++ [UInt8.ofNat n] := by
  have hdiv : n / 256 < 256 ^ w := by
    rw [Nat.pow_succ] at hn
    exact Nat.div_lt_of_lt_mul (by rwa [Nat.mul_comm])
  have hlast : (UInt8.ofNat n).toNat = n % 256 := UInt8.toNat_ofNat'
  have hdenotes : ofBe (trimmedBe w (n / 256) ++ [UInt8.ofNat n]) = n := by
    simp only [ofBe_append, ofBe_trimmedBe hdiv, ofBe, hlast, List.length_singleton,
      List.length_nil]
    omega
  have hlength : (trimmedBe w (n / 256) ++ [UInt8.ofNat n]).length ≤ w + 1 := by
    have hfront := trimmedBe_length_le w (n / 256)
    simpa using hfront
  have hhead : (trimmedBe w (n / 256) ++ [UInt8.ofNat n]).head? ≠ some 0 := by
    cases hfront : trimmedBe w (n / 256) with
    | nil =>
        -- one byte, which is the number itself
        intro hzero
        rw [hfront] at hdenotes
        simp only [List.nil_append, List.head?_cons, Option.some.injEq] at hzero
        simp [ofBe, hzero] at hdenotes
        omega
    | cons b rest =>
        have hne := head?_trimmedBe_ne_zero w (n / 256)
        rwa [hfront] at hne
  have hcanonical := trimmedBe_ofBe hlength hhead
  rwa [hdenotes] at hcanonical

theorem natDigits_of_lt {n : Nat} (hn : n < 256) : natDigits n = encode [UInt8.ofNat n] := by
  have hlast : (UInt8.ofNat n).toNat = n := by
    rw [UInt8.toNat_ofNat', Nat.mod_eq_of_lt hn]
  have hencode : encode [UInt8.ofNat n] = [Nat.digitChar (n / 16), Nat.digitChar (n % 16)] := by
    simp only [encode, List.flatMap_cons, List.flatMap_nil, List.append_nil, hlast]
  rw [hencode]
  by_cases hdigit : n < 16
  · rw [natDigits, Nat.toDigits_of_lt_base hdigit, Nat.div_eq_of_lt hdigit, Nat.mod_eq_of_lt hdigit]
    rfl
  · rw [natDigits, Nat.toDigits_of_base_le (by decide) (Nat.not_lt.mp hdigit),
      Nat.toDigits_of_lt_base (Nat.div_lt_of_lt_mul hn)]
    exact if_neg (by simp)

theorem natDigits_of_le {n : Nat} (hn : 256 ≤ n) :
    natDigits n = natDigits (n / 256) ++ encode [UInt8.ofNat n] := by
  have hlast : (UInt8.ofNat n).toNat = n % 256 := UInt8.toNat_ofNat'
  have hpair : encode [UInt8.ofNat n] = [Nat.digitChar (n / 16 % 16), Nat.digitChar (n % 16)] := by
    have hhigh : n % 256 / 16 = n / 16 % 16 := by omega
    have hlow : n % 256 % 16 = n % 16 := by omega
    simp only [encode, List.flatMap_cons, List.flatMap_nil, List.append_nil, hlast, hhigh, hlow]
  have hdiv : n / 16 / 16 = n / 256 := by rw [Nat.div_div_eq_div_mul]
  have hdigits : Nat.toDigits 16 n =
      Nat.toDigits 16 (n / 256) ++ [Nat.digitChar (n / 16 % 16), Nat.digitChar (n % 16)] := by
    rw [Nat.toDigits_of_base_le (by decide) (by omega : 16 ≤ n),
      Nat.toDigits_of_base_le (by decide) (by omega : 16 ≤ n / 16), hdiv, List.append_assoc]
    rfl
  have hparity : (Nat.toDigits 16 n).length % 2 = (Nat.toDigits 16 (n / 256)).length % 2 := by
    simp [hdigits]
  rw [hpair, natDigits, natDigits, hparity, hdigits]
  split
  · rfl
  · rfl

/-- The digits of a positive number are those of its trimmed numeral. -/
theorem natDigits_eq_encode {w n : Nat} (hpos : 0 < n) (hn : n < 256 ^ w) :
    natDigits n = encode (trimmedBe w n) := by
  induction w generalizing n with
  | zero => exact absurd hn (by simp; omega)
  | succ w ih =>
      rw [trimmedBe_succ hpos hn, encode_append]
      by_cases hbyte : n < 256
      · have hnil : trimmedBe w (n / 256) = [] := by
          have hlength := @trimmedBe_length_le_of_lt w (n / 256) 0
            (by rw [Nat.div_eq_of_lt hbyte]; exact Nat.pow_pos (by decide))
            (by rw [Nat.div_eq_of_lt hbyte]; decide)
          exact List.eq_nil_of_length_eq_zero (Nat.le_zero.mp hlength)
        rw [hnil, natDigits_of_lt hbyte]
        rfl
      · have hdiv : n / 256 < 256 ^ w := by
          rw [Nat.pow_succ] at hn
          exact Nat.div_lt_of_lt_mul (by rwa [Nat.mul_comm])
        rw [natDigits_of_le (Nat.not_lt.mp hbyte), ih (by omega) hdiv]

end RethCosmos.Encoding.Hex
