import RethCosmos.Encoding.Rlp

/-!
# Laws of the RLP items

Every item decoder accepts exactly the encodings of its values: byte strings,
integers of a fixed width, and lists by their header.
-/

namespace RethCosmos.Encoding.Rlp

theorem staticLeftPad_eq_ok_iff {width n : Nat} {data : List UInt8} :
    staticLeftPad width data = .ok n ↔
      data.length ≤ width ∧ data.head? ≠ some 0 ∧ ofBe data = n := by
  unfold staticLeftPad
  split
  next hlt => simp; omega
  next hge =>
    cases data with
    | nil => simp [ofBe]
    | cons b rest =>
        by_cases hb : b = 0
        · simp [hb]
        · simp only [hb, if_false, Except.ok.injEq, List.head?_cons, ne_eq, Option.some.injEq,
            not_false_eq_true, true_and, iff_and_self]
          omega

theorem staticLeftPad_trimmedBe {width n : Nat} (hn : n < 256 ^ width) :
    staticLeftPad width (trimmedBe width n) = .ok n :=
  staticLeftPad_eq_ok_iff.mpr
    ⟨trimmedBe_length_le _ _, head?_trimmedBe_ne_zero _ _, ofBe_trimmedBe hn⟩

/-! ## Headers -/

namespace Header

@[simp] theorem encode_length (header : Header) : header.encode.length = header.length := by
  unfold encode length
  split <;> simp [Nat.add_comm]

theorem encode_ne_nil (header : Header) : header.encode ≠ [] := by
  unfold encode
  split <;> simp

theorem length_le_nine (header : Header) : header.length ≤ 9 := by
  have hbytes := trimmedBe_length_le 8 header.payloadLength
  unfold length
  split <;> omega

/-- The short form reaches up to 55 bytes, two length bytes up to 65535. -/
theorem length_le_three {header : Header} (h : header.payloadLength < 65536) :
    header.length ≤ 3 := by
  have hbytes := @trimmedBe_length_le_of_lt 8 header.payloadLength 2 (by omega) h
  unfold length
  split <;> omega

theorem length_le_four {header : Header} (h : header.payloadLength < 2 ^ 24) :
    header.length ≤ 4 := by
  have hbytes := @trimmedBe_length_le_of_lt 8 header.payloadLength 3 (by omega) h
  unfold length
  split <;> omega

theorem checkRemaining_eq_ok_iff {header header' : Header} {buf rest : List UInt8} :
    checkRemaining header buf = .ok (header', rest) ↔
      header' = header ∧ rest = buf ∧ header.payloadLength ≤ buf.length := by
  unfold checkRemaining
  split
  next hlt => simp; omega
  next hge =>
    simp only [Except.ok.injEq, Prod.mk.injEq]
    constructor
    · intro heq
      exact ⟨heq.1.symm, heq.2.symm, Nat.not_lt.mp hge⟩
    · intro hread
      exact ⟨hread.1.symm, hread.2.1.symm⟩

theorem decodeLong_eq_ok_iff {list : Bool} {lenOfLen : Nat} {buf rest : List UInt8}
    {header : Header} :
    decodeLong list lenOfLen buf = .ok (header, rest) ↔
      header.list = list ∧ 56 ≤ header.payloadLength ∧ header.payloadLength < 256 ^ 8 ∧
        lenOfLen = (trimmedBe 8 header.payloadLength).length ∧
        buf = trimmedBe 8 header.payloadLength ++ rest ∧ header.payloadLength ≤ rest.length := by
  constructor
  · intro hread
    unfold decodeLong at hread
    split at hread
    next => simp at hread
    next hlen =>
      split at hread
      next => simp at hread
      next n hpad =>
        split at hread
        next => simp at hread
        next hlow =>
          obtain ⟨rfl, rfl, hrest⟩ := checkRemaining_eq_ok_iff.mp hread
          obtain ⟨hwidth, hhead, hdenotes⟩ := staticLeftPad_eq_ok_iff.mp hpad
          have hnumeral : trimmedBe 8 n = buf.take lenOfLen := by
            rw [← hdenotes, trimmedBe_ofBe hwidth hhead]
          have hlength : (buf.take lenOfLen).length = lenOfLen := by
            rw [List.length_take]; omega
          refine ⟨rfl, Nat.le_of_not_lt hlow, ?_, by rw [hnumeral, hlength],
            by rw [hnumeral, List.take_append_drop], hrest⟩
          calc n = ofBe (buf.take lenOfLen) := hdenotes.symm
            _ < 256 ^ (buf.take lenOfLen).length := ofBe_lt _
            _ ≤ 256 ^ 8 := Nat.pow_le_pow_right (by decide) hwidth
  · intro hparts
    obtain ⟨rfl, hlow, hhigh, rfl, rfl, hrest⟩ := hparts
    simp [decodeLong, staticLeftPad_trimmedBe hhigh, Nat.not_lt.mpr hlow,
      checkRemaining_eq_ok_iff, hrest]

/-- A header in front of a single byte below `0x80` would be redundant. -/
def Redundant (header : Header) (rest : List UInt8) : Prop :=
  header = ⟨false, 1⟩ ∧ ∃ b tail, rest = b :: tail ∧ b.toNat < 0x80

theorem toNat_ofNat_of_lt {n : Nat} (hn : n < 256) : (UInt8.ofNat n).toNat = n := by
  rw [UInt8.toNat_ofNat']
  exact Nat.mod_eq_of_lt hn

/-- Short headers are one byte, the base of the kind plus the length. -/
theorem decode_short {header : Header} {rest : List UInt8} (hshort : header.payloadLength < 56)
    (hlen : header.payloadLength ≤ rest.length) (hnot : ¬ header.Redundant rest) :
    decode (header.encode ++ rest) = .ok (header, rest) := by
  obtain ⟨list, n⟩ := header
  simp only at hshort hlen
  have hcheck : checkRemaining ⟨list, n⟩ rest = .ok (⟨list, n⟩, rest) :=
    checkRemaining_eq_ok_iff.mpr ⟨rfl, rfl, hlen⟩
  cases list with
  | false =>
      have hb := @toNat_ofNat_of_lt (0x80 + n) (by omega)
      simp only [encode, hshort, if_true, Bool.false_eq_true, if_false, List.singleton_append,
        decode, hb]
      rw [if_neg (by omega), if_pos (by omega), Nat.add_sub_cancel_left]
      by_cases hone : n = 1
      · subst hone
        cases rest with
        | nil => simp at hlen
        | cons next tail =>
            have hnext : ¬ next.toNat < 0x80 := fun h => hnot ⟨rfl, next, tail, rfl, h⟩
            simpa [hnext] using hcheck
      · simpa [hone] using hcheck
  | true =>
      have hb := @toNat_ofNat_of_lt (0xc0 + n) (by omega)
      simp only [encode, hshort, if_true, List.singleton_append, decode, hb]
      rw [if_neg (by omega), if_neg (by omega), if_neg (by omega), if_pos (by omega),
        Nat.add_sub_cancel_left]
      exact hcheck

/-- Long headers carry the length as a trimmed numeral of at most eight bytes. -/
theorem decode_long {header : Header} {rest : List UInt8} (hlong : 56 ≤ header.payloadLength)
    (hmax : header.payloadLength < 256 ^ 8) (hlen : header.payloadLength ≤ rest.length) :
    decode (header.encode ++ rest) = .ok (header, rest) := by
  obtain ⟨list, n⟩ := header
  simp only at hlong hmax hlen
  have hle := trimmedBe_length_le 8 n
  have hpos : 0 < (trimmedBe 8 n).length := by
    rw [List.length_pos_iff]
    intro hnil
    have hzero := ofBe_trimmedBe hmax
    rw [hnil] at hzero
    simp only [ofBe] at hzero
    omega
  have hread : decodeLong list (trimmedBe 8 n).length (trimmedBe 8 n ++ rest) =
      .ok (⟨list, n⟩, rest) :=
    decodeLong_eq_ok_iff.mpr ⟨rfl, hlong, hmax, rfl, rfl, hlen⟩
  have hshort : ¬ n < 56 := by omega
  cases list with
  | false =>
      have hb := @toNat_ofNat_of_lt (0xb7 + (trimmedBe 8 n).length) (by omega)
      simp only [encode, hshort, if_false, Bool.false_eq_true, List.cons_append, decode, hb]
      rw [if_neg (by omega), if_neg (by omega), if_pos (by omega), Nat.add_sub_cancel_left]
      exact hread
  | true =>
      have hb := @toNat_ofNat_of_lt (0xf7 + (trimmedBe 8 n).length) (by omega)
      simp only [encode, hshort, if_true, if_false, List.cons_append, decode, hb]
      rw [if_neg (by omega), if_neg (by omega), if_neg (by omega), if_neg (by omega),
        Nat.add_sub_cancel_left]
      exact hread

theorem decode_encode {header : Header} {rest : List UInt8}
    (hmax : header.payloadLength < 256 ^ 8) (hlen : header.payloadLength ≤ rest.length)
    (hnot : ¬ header.Redundant rest) :
    decode (header.encode ++ rest) = .ok (header, rest) := by
  by_cases hshort : header.payloadLength < 56
  · exact decode_short hshort hlen hnot
  · exact decode_long (by omega) hmax hlen

/-- What an accepted header looked like: a bare byte below `0x80`, or the header's
own encoding in front of its payload. -/
theorem decode_sound {input rest : List UInt8} {header : Header}
    (hread : decode input = .ok (header, rest)) :
    header.payloadLength ≤ rest.length ∧
      ((rest = input ∧ header.Redundant rest) ∨
        (header.payloadLength < 256 ^ 8 ∧ input = header.encode ++ rest ∧
          ¬ header.Redundant rest)) := by
  cases input with
  | nil => simp [decode] at hread
  | cons b tail =>
      have hlt := b.toNat_lt
      have hbyte : ∀ {n : Nat}, b.toNat = n → UInt8.ofNat n = b := by
        intro n hn
        rw [← hn, UInt8.ofNat_toNat]
      have hsize : ∀ n : Nat, n < 56 → n < 256 ^ 8 := fun n hn => hn.trans (by decide)
      -- one case for each range of the first byte, in the order of the decoder
      simp only [decode] at hread
      split_ifs at hread with hself hstring hone hlongString hlist
      · -- a byte that is its own payload
        obtain ⟨rfl, rfl, hlen⟩ := checkRemaining_eq_ok_iff.mp hread
        exact ⟨hlen, Or.inl ⟨rfl, rfl, b, tail, rfl, hself⟩⟩
      · -- a one-byte string behind a header
        cases tail with
        | nil => simp at hread
        | cons next tail =>
            simp only at hread
            split_ifs at hread with hnext
            obtain ⟨rfl, rfl, hlen⟩ := checkRemaining_eq_ok_iff.mp hread
            have hb : b.toNat = 0x80 + 1 := by omega
            have hshort : b.toNat - 0x80 < 56 := by omega
            refine ⟨hlen, Or.inr ⟨hsize _ hshort, ?_, ?_⟩⟩
            · simp [encode, hone, hbyte hb]
            · intro hredundant
              obtain ⟨_, b', tail', hcons, hsmall⟩ := hredundant
              obtain ⟨rfl, rfl⟩ := List.cons.inj hcons
              exact hnext hsmall
      · -- a short string
        obtain ⟨rfl, rfl, hlen⟩ := checkRemaining_eq_ok_iff.mp hread
        have hshort : b.toNat - 0x80 < 56 := by omega
        have hb : b.toNat = 0x80 + (b.toNat - 0x80) := by omega
        refine ⟨hlen, Or.inr ⟨hsize _ hshort, ?_, ?_⟩⟩
        · simp [encode, hshort, hbyte hb]
        · intro hredundant
          have heq := hredundant.1
          simp only [Header.mk.injEq] at heq
          exact hone heq.2
      · -- a long string
        obtain ⟨hkind, hlow, hhigh, hk, rfl, hlen⟩ := decodeLong_eq_ok_iff.mp hread
        obtain ⟨list, n⟩ := header
        simp only at hkind hlow hhigh hk hlen
        subst hkind
        have hshort : ¬ n < 56 := Nat.not_lt.mpr hlow
        have hb : b.toNat = 0xb7 + (trimmedBe 8 n).length := by omega
        refine ⟨hlen, Or.inr ⟨hhigh, ?_, ?_⟩⟩
        · simp [encode, hshort, hbyte hb]
        · intro hredundant
          have heq := hredundant.1
          simp only [Header.mk.injEq] at heq
          omega
      · -- a short list
        obtain ⟨rfl, rfl, hlen⟩ := checkRemaining_eq_ok_iff.mp hread
        have hshort : b.toNat - 0xc0 < 56 := by omega
        have hb : b.toNat = 0xc0 + (b.toNat - 0xc0) := by omega
        refine ⟨hlen, Or.inr ⟨hsize _ hshort, ?_, ?_⟩⟩
        · simp [encode, hshort, hbyte hb]
        · intro hredundant
          exact absurd hredundant.1 (by simp)
      · -- a long list
        obtain ⟨hkind, hlow, hhigh, hk, rfl, hlen⟩ := decodeLong_eq_ok_iff.mp hread
        obtain ⟨list, n⟩ := header
        simp only at hkind hlow hhigh hk hlen
        subst hkind
        have hshort : ¬ n < 56 := Nat.not_lt.mpr hlow
        have hb : b.toNat = 0xf7 + (trimmedBe 8 n).length := by omega
        refine ⟨hlen, Or.inr ⟨hhigh, ?_, ?_⟩⟩
        · simp [encode, hshort, hbyte hb]
        · intro hredundant
          exact absurd hredundant.1 (by simp)

end Header

/-! ## Byte strings -/

/-- A single byte below `0x80` stands for itself. -/
def SelfByte (bytes : List UInt8) : Prop := ∃ b, bytes = [b] ∧ b.toNat < 0x80

theorem encodeBytes_of_selfByte {bytes : List UInt8} (h : SelfByte bytes) :
    encodeBytes bytes = bytes := by
  obtain ⟨b, rfl, hb⟩ := h
  simp [encodeBytes, hb]

theorem encodeBytes_of_not_selfByte {bytes : List UInt8} (h : ¬ SelfByte bytes) :
    encodeBytes bytes = Header.encode ⟨false, bytes.length⟩ ++ bytes := by
  match bytes with
  | [] => simp [encodeBytes]
  | [b] =>
      have hb : ¬ b.toNat < 0x80 := fun hb => h ⟨b, rfl, hb⟩
      simp [encodeBytes, hb]
  | b :: b' :: rest => simp [encodeBytes]

@[simp] theorem encodeBytes_length (bytes : List UInt8) :
    (encodeBytes bytes).length = lengthBytes bytes := by
  match bytes with
  | [] => simp [encodeBytes, lengthBytes]
  | [b] =>
      simp only [encodeBytes, lengthBytes]
      split <;> simp [Nat.add_comm]
  | b :: b' :: rest => simp [encodeBytes, lengthBytes]; omega

/-- A byte string is framed by a header of at most three bytes up to 64 KiB. -/
theorem lengthBytes_le {bytes : List UInt8} (h : bytes.length < 65536) :
    lengthBytes bytes ≤ bytes.length + 3 := by
  have hheader := @Header.length_le_three ⟨false, bytes.length⟩ h
  have hone := @Header.length_le_three ⟨false, 1⟩ (by decide)
  unfold lengthBytes
  split
  · split <;> simp only [List.length_cons, List.length_nil] <;> omega
  · omega

/-- No header is longer than nine bytes. -/
theorem lengthBytes_le_add_nine (bytes : List UInt8) :
    lengthBytes bytes ≤ bytes.length + 9 := by
  have hheader := Header.length_le_nine ⟨false, bytes.length⟩
  have hone := Header.length_le_nine ⟨false, 1⟩
  unfold lengthBytes
  split
  · split <;> simp only [List.length_cons, List.length_nil] <;> omega
  · omega

/-- Byte strings up to 55 bytes need one header byte at most. -/
theorem lengthBytes_le_of_short {bytes : List UInt8} (h : bytes.length < 56) :
    lengthBytes bytes ≤ bytes.length + 1 := by
  unfold lengthBytes
  split
  · split <;> simp [Header.length]
  · simp [Header.length, h]

/-- Byte strings whose length fits a `usize`. -/
theorem bytes_exact : Exact (fun bytes => bytes.length < 256 ^ 8) encodeBytes decodeBytes where
  complete := by
    intro bytes rest hmax
    have hread : Header.decode (encodeBytes bytes ++ rest) =
        .ok (⟨false, bytes.length⟩, bytes ++ rest) := by
      by_cases hself : SelfByte bytes
      · rw [encodeBytes_of_selfByte hself]
        obtain ⟨b, rfl, hb⟩ := hself
        simp [Header.decode, hb, Header.checkRemaining]
      · rw [encodeBytes_of_not_selfByte hself, List.append_assoc]
        apply Header.decode_encode hmax (by simp)
        intro hredundant
        obtain ⟨hone, b, tail, hcons, hb⟩ := hredundant
        simp only [Header.mk.injEq, true_and] at hone
        obtain ⟨c, rfl⟩ := List.length_eq_one_iff.mp hone
        obtain ⟨rfl, rfl⟩ := List.cons.inj hcons
        exact hself ⟨c, rfl, hb⟩
    simp [decodeBytes, decodePayload, hread]
  sound := by
    intro input bytes rest hread
    unfold decodeBytes decodePayload at hread
    split at hread
    next => simp at hread
    next header tail hheader =>
      split at hread
      next => simp at hread
      next hkind =>
        simp only [ne_eq, Decidable.not_not] at hkind
        simp only [Except.ok.injEq, Prod.mk.injEq] at hread
        obtain ⟨rfl, rfl⟩ := hread
        obtain ⟨list, n⟩ := header
        simp only at hkind
        subst hkind
        obtain ⟨hlen, hcase⟩ := Header.decode_sound hheader
        simp only at hlen
        have htake : (tail.take n).length = n := List.length_take_of_le hlen
        rcases hcase with ⟨rfl, hone, b, tail', rfl, hb⟩ | ⟨hmax, rfl, hnot⟩
        · -- no header was read, so the item is one byte
          simp only [Header.mk.injEq, true_and] at hone
          subst hone
          simp [encodeBytes, hb]
        · -- the header was not redundant, so the encoder writes the same one
          refine ⟨by rw [htake]; exact hmax, ?_⟩
          have hself : ¬ SelfByte (tail.take n) := by
            intro hself
            obtain ⟨b, hb, hsmall⟩ := hself
            have hn : n = 1 := by rw [← htake, hb]; rfl
            subst hn
            cases tail with
            | nil => simp at hb
            | cons c tail =>
                simp only [List.take_succ_cons, List.take_zero, List.cons.injEq, and_true] at hb
                exact hnot ⟨rfl, c, tail, rfl, hb ▸ hsmall⟩
          rw [encodeBytes_of_not_selfByte hself, htake, List.append_assoc, List.take_append_drop]

/-- Arrays of a fixed length, with no shorter or longer string accepted. -/
theorem fixed_exact {n : Nat} (hn : n < 256 ^ 8) :
    Exact (fun _ => True) encodeFixed (decodeFixed n) := by
  apply bytes_exact.refine
  · intro bytes _
    rw [bytes.length_eq]
    exact hn
  · intro bytes _
    simp
  · intro slice bytes _ hparse
    split at hparse
    next found hfound =>
      simp only [Except.ok.injEq] at hparse
      subst hparse
      exact ⟨trivial, FixedBytes.ofSlice?_eq_some_iff.mp hfound⟩
    next => simp at hparse

theorem encodeFixed_length_le {n : Nat} (hn : n < 56) (bytes : FixedBytes n) :
    (encodeFixed bytes).length ≤ n + 1 := by
  have hshort := @lengthBytes_le_of_short bytes.data (by rw [bytes.length_eq]; exact hn)
  rw [bytes.length_eq] at hshort
  simpa [encodeFixed] using hshort

/-! ## Integers -/

theorem two_pow_eq {bits : Nat} (hbits : bits = 8 * (bits / 8)) : 2 ^ bits = 256 ^ (bits / 8) := by
  calc 2 ^ bits = 2 ^ (8 * (bits / 8)) := by rw [← hbits]
    _ = 256 ^ (bits / 8) := Nat.pow_mul 2 8 (bits / 8)

/-- A value of a whole number of bytes is a numeral of that many bytes. -/
theorem toNat_lt {bits : Nat} (hbits : bits = 8 * (bits / 8)) (x : BitVec bits) :
    x.toNat < 256 ^ (bits / 8) := by
  rw [← two_pow_eq hbits]
  exact x.isLt

/-- An integer is the byte string of its trimmed numeral. -/
theorem encodeUint_eq {bits : Nat} (hbits : bits = 8 * (bits / 8)) (hwidth : bits / 8 < 56)
    (x : BitVec bits) : encodeUint x = encodeBytes (trimmedBe (bits / 8) x.toNat) := by
  have hmax := toNat_lt hbits x
  have hvalue := ofBe_trimmedBe hmax
  have hhead := head?_trimmedBe_ne_zero (bits / 8) x.toNat
  have hlen := trimmedBe_length_le (bits / 8) x.toNat
  unfold encodeUint
  generalize hw : trimmedBe (bits / 8) x.toNat = numeral at *
  split_ifs with hzero hsmall
  · -- zero is the empty string
    have hnil : numeral = [] := by
      by_contra hne
      have hlow := le_ofBe_of_head hne hhead
      have hpos : 0 < 256 ^ (numeral.length - 1) := Nat.pow_pos (by decide)
      omega
    subst hnil
    rfl
  · -- a value below `0x80` is its own byte
    have hone : numeral.length ≤ 1 := by
      rw [← hw]
      exact trimmedBe_length_le_of_lt hmax (by omega)
    match numeral, hone with
    | [], _ => simp [ofBe] at hvalue; omega
    | [b], _ =>
        have hb : b.toNat = x.toNat := by simpa [ofBe] using hvalue
        rw [encodeBytes_of_selfByte ⟨b, rfl, hb ▸ hsmall⟩, ← hb, UInt8.ofNat_toNat]
  · -- any other value is not a single byte below `0x80`, so it has a header
    have hself : ¬ SelfByte numeral := by
      intro hself
      obtain ⟨b, rfl, hb⟩ := hself
      have hvalue' : b.toNat = x.toNat := by simpa [ofBe] using hvalue
      exact hsmall (hvalue' ▸ hb)
    have hshort : numeral.length < 56 := hlen.trans_lt hwidth
    simp [encodeBytes_of_not_selfByte hself, Header.encode, hshort]

/-- Integers of a fixed width, with no other bytes accepted for a value. -/
theorem uint_exact {bits : Nat} (hbits : bits = 8 * (bits / 8)) (hwidth : bits / 8 < 56) :
    Exact (fun _ => True) encodeUint (decodeUint bits) := by
  have hencode : (encodeUint : BitVec bits → List UInt8) =
      fun x => encodeBytes (trimmedBe (bits / 8) x.toNat) := by
    funext x
    exact encodeUint_eq hbits hwidth x
  rw [hencode]
  apply bytes_exact.refine
  · intro x _
    have hlen := trimmedBe_length_le (bits / 8) x.toNat
    exact Nat.lt_of_le_of_lt hlen (Nat.lt_of_lt_of_le hwidth (by decide))
  · intro x _
    simp [staticLeftPad_trimmedBe (toNat_lt hbits x), Except.map]
  · intro bytes x _ hparse
    refine ⟨trivial, ?_⟩
    cases hpad : staticLeftPad (bits / 8) bytes with
    | error e => simp [hpad, Except.map] at hparse
    | ok n =>
        simp only [hpad, Except.map, Except.ok.injEq] at hparse
        obtain ⟨hwide, hhead, hdenotes⟩ := staticLeftPad_eq_ok_iff.mp hpad
        have hn : n < 2 ^ bits := by
          rw [two_pow_eq hbits, ← hdenotes]
          exact (ofBe_lt bytes).trans_le (Nat.pow_le_pow_right (by decide) hwide)
        rw [← hparse, BitVec.toNat_ofNat, Nat.mod_eq_of_lt hn, ← hdenotes,
          trimmedBe_ofBe hwide hhead]

theorem encodeUint_length_le {bits : Nat} (x : BitVec bits) :
    (encodeUint x).length ≤ 1 + bits / 8 := by
  have hlen := trimmedBe_length_le (bits / 8) x.toNat
  unfold encodeUint
  split_ifs
  · simp
  · simp
  · simp only [List.length_cons]
    omega

/-! ## Lists -/

theorem encodeList_length (body : List UInt8) :
    (encodeList body).length = Header.length ⟨true, body.length⟩ + body.length := by
  simp [encodeList]

/-- A list header announces exactly its body. -/
theorem decode_encodeList {body : List UInt8} (hmax : body.length < 256 ^ 8)
    (rest : List UInt8) :
    Header.decode (encodeList body ++ rest) = .ok (⟨true, body.length⟩, body ++ rest) := by
  rw [encodeList, List.append_assoc]
  apply Header.decode_encode hmax (by simp)
  intro hredundant
  exact absurd hredundant.1 (by simp)

/-- Lists are self-delimiting, whatever their bodies are. -/
theorem list_roundTrips :
    RoundTrips (fun body => body.length < 256 ^ 8) encodeList (decodePayload true) := by
  intro body rest hmax
  simp [decodePayload, decode_encodeList hmax rest]

/-- An accepted list header stands in front of its body. -/
theorem decode_list_sound {input rest : List UInt8} {n : Nat}
    (hread : Header.decode input = .ok (⟨true, n⟩, rest)) :
    n < 256 ^ 8 ∧ n ≤ rest.length ∧ input = encodeList (rest.take n) ++ rest.drop n := by
  obtain ⟨hlen, hcase⟩ := Header.decode_sound hread
  simp only at hlen
  have htake : (rest.take n).length = n := List.length_take_of_le hlen
  rcases hcase with ⟨_, heq, _⟩ | ⟨hmax, hinput, _⟩
  · simp at heq
  · refine ⟨hmax, hlen, ?_⟩
    rw [encodeList, htake, List.append_assoc, List.take_append_drop, hinput]

end RethCosmos.Encoding.Rlp
