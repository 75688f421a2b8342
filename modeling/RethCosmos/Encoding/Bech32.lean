import Mathlib.Data.List.Basic

/-!
# Bech32

A human-readable part, the separator, the data as five-bit words and a six-word
checksum. Only the encoder is needed: its output stays in a small character set.
-/

namespace RethCosmos.Encoding.Bech32

/-- A five-bit word. -/
abbrev Word := Fin 32

def charset : List Char := "qpzry9x8gf2tvdw0s3jn54khce6mua7l".toList

theorem charset_length : charset.length = 32 := by decide

def char (word : Word) : Char := charset.get (word.cast charset_length.symm)

/-- Regroup bytes into words, most significant bit first. `acc` holds the `bits`
pending bits, fewer than five; the last word is filled up with zeros. -/
def regroup (acc bits : Nat) : List UInt8 → List Word
  | [] => if bits = 0 then [] else [Fin.ofNat 32 (acc * 2 ^ (5 - bits))]
  | b :: rest =>
      let acc := acc * 256 + b.toNat
      let bits := bits + 8
      if bits < 10 then
        Fin.ofNat 32 (acc / 2 ^ (bits - 5)) :: regroup (acc % 2 ^ (bits - 5)) (bits - 5) rest
      else
        Fin.ofNat 32 (acc / 2 ^ (bits - 5)) :: Fin.ofNat 32 (acc / 2 ^ (bits - 10)) ::
          regroup (acc % 2 ^ (bits - 10)) (bits - 10) rest

def toBase32 (bytes : List UInt8) : List Word := regroup 0 0 bytes

/-! ## Checksum -/

def generator : List (Nat × Nat) :=
  [(0, 0x3b6a57b2), (1, 0x26508e6d), (2, 0x1ea119fa), (3, 0x3d4233dd), (4, 0x2a1462b3)]

def polymodStep (checksum value : Nat) : Nat :=
  let top := checksum >>> 25
  generator.foldl (fun acc entry => if top.testBit entry.1 then acc ^^^ entry.2 else acc)
    (((checksum &&& 0x1ffffff) <<< 5) ^^^ value)

def polymod (values : List Nat) : Nat := values.foldl polymodStep 1

def expandHrp (hrp : List Char) : List Nat :=
  hrp.map (fun ch => ch.toNat >>> 5) ++ 0 :: hrp.map (fun ch => ch.toNat &&& 31)

/-- The original Bech32 checksum, with final constant one. -/
def checksum (hrp : List Char) (data : List Word) : List Word :=
  let residue := polymod (expandHrp hrp ++ data.map Fin.val ++ List.replicate 6 0) ^^^ 1
  [25, 20, 15, 10, 5, 0].map fun shift => Fin.ofNat 32 (residue >>> shift)

/-! ## Encoding -/

/-- Between 1 and 83 printable characters, not of mixed case. -/
def checkHrp (hrp : List Char) : Bool :=
  0 < hrp.length && hrp.length ≤ 83 && hrp.all (fun ch => 33 ≤ ch.toNat && ch.toNat ≤ 126) &&
    !(hrp.any Char.isLower && hrp.any Char.isUpper)

def encode (hrp : List Char) (data : List Word) : Option (List Char) :=
  if checkHrp hrp then
    let hrp := hrp.map Char.toLower
    some (hrp ++ '1' :: (data ++ checksum hrp data).map char)
  else none

theorem encode_isSome_iff {hrp : List Char} {data : List Word} :
    (encode hrp data).isSome ↔ checkHrp hrp := by
  unfold encode
  by_cases hcheck : checkHrp hrp <;> simp [hcheck]

/-- Characters come from the human-readable part, the separator and the character set. -/
theorem mem_of_mem_encode {hrp text : List Char} {data : List Word} {ch : Char}
    (hencode : encode hrp data = some text) (hch : ch ∈ text) :
    ch ∈ hrp.map Char.toLower ∨ ch = '1' ∨ ch ∈ charset := by
  unfold encode at hencode
  split at hencode
  next =>
    simp only [Option.some.injEq] at hencode
    subst hencode
    simp only [List.mem_append, List.mem_cons] at hch
    rcases hch with hhrp | rfl | hdata
    · exact Or.inl hhrp
    · exact Or.inr (Or.inl rfl)
    · obtain ⟨word, _, rfl⟩ := List.mem_map.mp hdata
      exact Or.inr (Or.inr (List.get_mem _ _))
  next => simp at hencode

end RethCosmos.Encoding.Bech32
