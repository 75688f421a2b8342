import Mathlib.Data.List.Basic
import Mathlib.Data.Nat.Basic
import Mathlib.Tactic.Ring

/-!
# Big-endian numerals

Natural numbers as byte strings, most significant byte first: at a fixed width,
and trimmed of leading zero bytes. Trimmed numerals are the ones a canonical
decoder accepts, because no other numeral denotes the same number.
-/

namespace RethCosmos.Encoding

/-- The low `w` bytes of `n`, most significant first. -/
def beBytes : Nat → Nat → List UInt8
  | 0, _ => []
  | w + 1, n => UInt8.ofNat (n / 256 ^ w) :: beBytes w n

/-- The number a byte string denotes, most significant byte first. -/
def ofBe : List UInt8 → Nat
  | [] => 0
  | b :: rest => b.toNat * 256 ^ rest.length + ofBe rest

/-- The bytes of `n` at width `w` without leading zeros; zero is the empty string. -/
def trimmedBe (w n : Nat) : List UInt8 := (beBytes w n).dropWhile (· == 0)

@[simp] theorem beBytes_length (w n : Nat) : (beBytes w n).length = w := by
  induction w with
  | zero => rfl
  | succ w ih => simp [beBytes, ih]

theorem ofBe_lt (bytes : List UInt8) : ofBe bytes < 256 ^ bytes.length := by
  induction bytes with
  | nil => simp [ofBe]
  | cons b rest ih =>
      have hb := b.toNat_lt
      have hdigit : b.toNat * 256 ^ rest.length ≤ 255 * 256 ^ rest.length :=
        Nat.mul_le_mul_right _ (by omega)
      simp only [ofBe, List.length_cons, Nat.pow_succ]
      omega

theorem ofBe_append (front back : List UInt8) :
    ofBe (front ++ back) = ofBe front * 256 ^ back.length + ofBe back := by
  induction front with
  | nil => simp [ofBe]
  | cons b front ih =>
      simp only [List.cons_append, ofBe, List.length_append, Nat.pow_add, ih]
      ring

theorem ofBe_beBytes {w n : Nat} (hn : n < 256 ^ w) : ofBe (beBytes w n) = n := by
  -- The top byte is not reduced, so the induction runs on the remainder.
  have hmod : ∀ w n, ofBe (beBytes w n) = n % 256 ^ w := by
    intro w n
    induction w with
    | zero => simp [ofBe, beBytes, Nat.mod_one]
    | succ w ih =>
        have hsplit := @Nat.mod_mul (256 ^ w) 256 n
        simp only [beBytes, ofBe, beBytes_length, ih, UInt8.toNat_ofNat', Nat.pow_succ]
        rw [hsplit, Nat.mul_comm (256 ^ w)]
        exact Nat.add_comm _ _
  rw [hmod, Nat.mod_eq_of_lt hn]

theorem beBytes_add_mul (w n k : Nat) : beBytes w (n + k * 256 ^ w) = beBytes w n := by
  induction w generalizing k with
  | zero => rfl
  | succ w ih =>
      have hpow : n + k * 256 ^ (w + 1) = n + (k * 256) * 256 ^ w := by
        rw [Nat.pow_succ]; ring
      simp only [beBytes, hpow, ih, List.cons.injEq, and_true]
      rw [Nat.add_mul_div_right _ _ (Nat.pow_pos (by decide))]
      apply UInt8.toNat_inj.mp
      rw [UInt8.toNat_ofNat', UInt8.toNat_ofNat']
      exact Nat.add_mul_mod_self_right _ _ _

/-- A byte string is the fixed-width numeral of the number it denotes. -/
theorem beBytes_ofBe (bytes : List UInt8) : beBytes bytes.length (ofBe bytes) = bytes := by
  induction bytes with
  | nil => rfl
  | cons b rest ih =>
      simp only [List.length_cons, beBytes, ofBe]
      congr 1
      · rw [Nat.add_comm, Nat.add_mul_div_right _ _ (Nat.pow_pos (by decide)),
          Nat.div_eq_of_lt (ofBe_lt rest), Nat.zero_add]
        exact UInt8.ofNat_toNat
      · rw [Nat.add_comm, beBytes_add_mul, ih]

/-! ## Trimmed numerals -/

theorem ofBe_dropWhile_zero (bytes : List UInt8) :
    ofBe (bytes.dropWhile (· == 0)) = ofBe bytes := by
  induction bytes with
  | nil => rfl
  | cons b rest ih =>
      by_cases hb : b = 0
      · subst hb
        simpa [ofBe] using ih
      · simp [hb]

theorem ofBe_trimmedBe {w n : Nat} (hn : n < 256 ^ w) : ofBe (trimmedBe w n) = n := by
  rw [trimmedBe, ofBe_dropWhile_zero, ofBe_beBytes hn]

theorem head?_trimmedBe_ne_zero (w n : Nat) : (trimmedBe w n).head? ≠ some 0 := by
  intro hhead
  have hnot := List.head?_dropWhile_not (· == (0 : UInt8)) (beBytes w n)
  rw [← trimmedBe, hhead] at hnot
  simp at hnot

theorem trimmedBe_length_le (w n : Nat) : (trimmedBe w n).length ≤ w := by
  calc (trimmedBe w n).length ≤ (beBytes w n).length :=
        ((beBytes w n).dropWhile_sublist (· == 0)).length_le
    _ = w := beBytes_length w n

/-- A numeral without a leading zero denotes at least the weight of its first byte. -/
theorem le_ofBe_of_head {bytes : List UInt8} (hne : bytes ≠ []) (hhead : bytes.head? ≠ some 0) :
    256 ^ (bytes.length - 1) ≤ ofBe bytes := by
  cases bytes with
  | nil => exact absurd rfl hne
  | cons b rest =>
      have hb : 0 < b.toNat := by
        rcases Nat.eq_zero_or_pos b.toNat with hzero | hpos
        · have hbyte : b = 0 := UInt8.toNat_inj.mp hzero
          rw [hbyte] at hhead
          exact absurd rfl hhead
        · exact hpos
      simp only [ofBe, List.length_cons, Nat.add_sub_cancel]
      exact (Nat.le_mul_of_pos_left _ hb).trans (Nat.le_add_right _ _)

/-- A number below `256 ^ k` has at most `k` bytes once leading zeros are gone. -/
theorem trimmedBe_length_le_of_lt {w n k : Nat} (hw : n < 256 ^ w) (hn : n < 256 ^ k) :
    (trimmedBe w n).length ≤ k := by
  by_cases hnil : trimmedBe w n = []
  · simp [hnil]
  · have hlow := le_ofBe_of_head hnil (head?_trimmedBe_ne_zero w n)
    rw [ofBe_trimmedBe hw] at hlow
    have hexp := (Nat.pow_lt_pow_iff_right (by decide : 1 < 256)).mp (hlow.trans_lt hn)
    omega

/-- The numerals a canonical decoder accepts are exactly the trimmed ones. -/
theorem trimmedBe_ofBe {w : Nat} {bytes : List UInt8} (hlen : bytes.length ≤ w)
    (hhead : bytes.head? ≠ some 0) : trimmedBe w (ofBe bytes) = bytes := by
  obtain ⟨k, rfl⟩ := Nat.exists_eq_add_of_le hlen
  -- at full width the numeral is the bytes behind `k` zeros, which trimming takes off again
  have hpad : beBytes (bytes.length + k) (ofBe bytes) = List.replicate k 0 ++ bytes := by
    have hdenotes : ofBe (List.replicate k 0 ++ bytes) = ofBe bytes := by
      induction k with
      | zero => rfl
      | succ k ih => simpa [List.replicate_succ, ofBe] using ih (Nat.le_add_right _ _)
    have hlength : (List.replicate k (0 : UInt8) ++ bytes).length = bytes.length + k := by
      simp [Nat.add_comm]
    rw [← hdenotes, ← hlength, beBytes_ofBe]
  rw [trimmedBe, hpad, List.dropWhile_append_of_pos (by simp)]
  cases bytes with
  | nil => rfl
  | cons b rest =>
      have hb : b ≠ 0 := fun h => hhead (by simp [h])
      simp [hb]

end RethCosmos.Encoding
