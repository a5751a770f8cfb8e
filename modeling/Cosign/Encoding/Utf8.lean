import Cosign.Encoding.Bytes

/-!
# UTF-8 round trip

Decoding the UTF-8 of characters returns the characters (`utf8Runes_flatMap`). A text is therefore
its own list of runes (`runes_eq`), and functions on texts can be reasoned about on lists of
characters.
-/
namespace Cosign.Encoding

theorem isTail_iff {low high byte : UInt8} :
    isTail low high byte = true ↔ low.toNat ≤ byte.toNat ∧ byte.toNat ≤ high.toNat := by
  simp [isTail, UInt8.le_iff_toNat_le]

/-- A byte from a range that starts above the ASCII characters is none of these. -/
theorem not_ascii_of_isTail {low high byte : UInt8} (within : isTail low high byte = true)
    (above : 0x80 ≤ low) : ¬byte < 0x80 := by
  rw [isTail_iff] at within
  rw [UInt8.le_iff_toNat_le] at above
  rw [UInt8.lt_iff_toNat_lt]
  omega

theorem isTail_eq_false_of_lt {low high byte lower upper : UInt8}
    (within : isTail low high byte = true) (below : upper < low) :
    isTail lower upper byte = false := by
  rw [isTail_iff] at within
  rw [UInt8.lt_iff_toNat_lt] at below
  rw [← Bool.not_eq_true, isTail_iff]
  omega

theorem utf8Runes_two {lead second : UInt8} (rest : Bytes)
    (leads : isTail 0xC2 0xDF lead = true) (follows : isTail 0x80 0xBF second = true) :
    utf8Runes (lead :: second :: rest) =
      Char.ofNat (lead.toNat % 32 * 64 + tailBits second) :: utf8Runes rest := by
  have high : ¬lead < 0x80 := not_ascii_of_isTail leads (by decide)
  conv => lhs; rw [utf8Runes.eq_def]
  simp only [high, leads, follows, Bool.and_self, if_true, if_false]

theorem utf8Runes_three {lead second third : UInt8} (rest : Bytes)
    (leads : isTail 0xE0 0xEF lead = true)
    (follows : isTail (if lead = 0xE0 then 0xA0 else 0x80) (if lead = 0xED then 0x9F else 0xBF)
      second = true)
    (ends : isTail 0x80 0xBF third = true) :
    utf8Runes (lead :: second :: third :: rest) =
      Char.ofNat (lead.toNat % 16 * 4096 + tailBits second * 64 + tailBits third) ::
        utf8Runes rest := by
  have high : ¬lead < 0x80 := not_ascii_of_isTail leads (by decide)
  have longer : isTail 0xC2 0xDF lead = false := isTail_eq_false_of_lt leads (by decide)
  conv => lhs; rw [utf8Runes.eq_def]
  simp only [high, longer, leads, follows, ends, Bool.false_and, Bool.and_self, if_true,
    if_false, Bool.false_eq_true]

theorem utf8Runes_four {lead second third fourth : UInt8} (rest : Bytes)
    (leads : isTail 0xF0 0xF4 lead = true)
    (follows : isTail (if lead = 0xF0 then 0x90 else 0x80) (if lead = 0xF4 then 0x8F else 0xBF)
      second = true)
    (goes : isTail 0x80 0xBF third = true) (ends : isTail 0x80 0xBF fourth = true) :
    utf8Runes (lead :: second :: third :: fourth :: rest) =
      Char.ofNat (lead.toNat % 8 * 262144 + tailBits second * 4096 + tailBits third * 64 +
        tailBits fourth) :: utf8Runes rest := by
  have high : ¬lead < 0x80 := not_ascii_of_isTail leads (by decide)
  have longer : isTail 0xC2 0xDF lead = false := isTail_eq_false_of_lt leads (by decide)
  have longest : isTail 0xE0 0xEF lead = false := isTail_eq_false_of_lt leads (by decide)
  conv => lhs; rw [utf8Runes.eq_def]
  simp only [high, longer, longest, leads, follows, goes, ends, Bool.false_and, Bool.and_self,
    if_true, if_false, Bool.false_eq_true]

theorem toNat_ofNat_small (value : Nat) (small : value < 256) :
    (UInt8.ofNat value).toNat = value := by
  rw [UInt8.toNat_ofNat']
  exact Nat.mod_eq_of_lt small

/-- A byte that is given as a small number is in a range if the number is. -/
theorem isTail_ofNat {low high : UInt8} {value : Nat} (small : value < 256) :
    isTail low high (UInt8.ofNat value) = true ↔ low.toNat ≤ value ∧ value ≤ high.toNat := by
  rw [isTail_iff, toNat_ofNat_small value small]

/-- Six bits after the mark of a continuation are a continuation. -/
theorem isTail_six (bits : Nat) : isTail 0x80 0xBF (UInt8.ofNat (bits % 64 + 128)) = true := by
  rw [isTail_ofNat (by omega)]
  simp only [UInt8.toNat_ofNat]
  omega

theorem tailBits_six (bits : Nat) : tailBits (UInt8.ofNat (bits % 64 + 128)) = bits % 64 := by
  rw [tailBits, toNat_ofNat_small _ (by omega)]
  omega

theorem utf8Runes_encode_one {code : Nat} (one : code ≤ 0x7F) (rest : Bytes) :
    utf8Runes (UInt8.ofNat code :: rest) = Char.ofNat code :: utf8Runes rest := by
  have value := toNat_ofNat_small code (by omega)
  have low : UInt8.ofNat code < 0x80 := by
    rw [UInt8.lt_iff_toNat_lt, value]
    simp only [UInt8.toNat_ofNat]
    omega
  conv => lhs; rw [utf8Runes.eq_def]
  simp only [low, if_true, value]

theorem utf8Runes_encode_two {code : Nat} (more : 0x7F < code) (two : code ≤ 0x7FF)
    (rest : Bytes) :
    utf8Runes (UInt8.ofNat (code / 64 % 32 + 192) :: UInt8.ofNat (code % 64 + 128) :: rest) =
      Char.ofNat code :: utf8Runes rest := by
  rw [utf8Runes_two rest _ (isTail_six code)]
  · rw [tailBits_six, toNat_ofNat_small _ (by omega)]
    congr 2
    omega
  · rw [isTail_ofNat (by omega)]
    simp only [UInt8.toNat_ofNat]
    omega

theorem utf8Runes_encode_three {code : Nat} (more : 0x7FF < code) (three : code ≤ 0xFFFF)
    (valid : code < 0xD800 ∨ 0xDFFF < code) (rest : Bytes) :
    utf8Runes (UInt8.ofNat (code / 4096 % 16 + 224) :: UInt8.ofNat (code / 64 % 64 + 128) ::
      UInt8.ofNat (code % 64 + 128) :: rest) = Char.ofNat code :: utf8Runes rest := by
  have lead := toNat_ofNat_small (code / 4096 % 16 + 224) (by omega)
  rw [utf8Runes_three rest _ _ (isTail_six code)]
  · rw [tailBits_six, tailBits_six, lead]
    congr 2
    omega
  · rw [isTail_ofNat (by omega)]
    simp only [UInt8.toNat_ofNat]
    omega
  · rw [isTail_ofNat (by omega), apply_ite UInt8.toNat, apply_ite UInt8.toNat]
    simp only [← UInt8.toNat_inj, lead, UInt8.toNat_ofNat]
    split <;> split <;> omega

theorem utf8Runes_encode_four {code : Nat} (more : 0xFFFF < code) (four : code < 0x110000)
    (rest : Bytes) :
    utf8Runes (UInt8.ofNat (code / 262144 % 8 + 240) :: UInt8.ofNat (code / 4096 % 64 + 128) ::
      UInt8.ofNat (code / 64 % 64 + 128) :: UInt8.ofNat (code % 64 + 128) :: rest) =
      Char.ofNat code :: utf8Runes rest := by
  have lead := toNat_ofNat_small (code / 262144 % 8 + 240) (by omega)
  rw [utf8Runes_four rest _ _ (isTail_six (code / 64)) (isTail_six code)]
  · rw [tailBits_six, tailBits_six, tailBits_six, lead]
    congr 2
    omega
  · rw [isTail_ofNat (by omega)]
    simp only [UInt8.toNat_ofNat]
    omega
  · rw [isTail_ofNat (by omega), apply_ite UInt8.toNat, apply_ite UInt8.toNat]
    simp only [← UInt8.toNat_inj, lead, UInt8.toNat_ofNat]
    split <;> split <;> omega

/-- Decoding one character in front of other bytes returns the character. -/
theorem utf8Runes_encode (char : Char) (rest : Bytes) :
    utf8Runes (String.utf8EncodeChar char ++ rest) = char :: utf8Runes rest := by
  have valid : char.val.toNat < 0xD800 ∨ 0xDFFF < char.val.toNat ∧ char.val.toNat < 0x110000 :=
    char.valid
  have same : Char.ofNat char.val.toNat = char := Char.ofNat_toNat char
  rw [String.utf8EncodeChar.eq_1]
  generalize char.val.toNat = code at valid same ⊢
  rw [← same]
  split
  · rename_i one
    exact utf8Runes_encode_one (by omega) rest
  · split
    · rename_i more two
      exact utf8Runes_encode_two (by omega) (by omega) rest
    · split
      · rename_i more three
        exact utf8Runes_encode_three (by omega) (by omega) (by omega) rest
      · rename_i most
        exact utf8Runes_encode_four (by omega) (by omega) rest

/-- Decoding characters in front of other bytes returns the characters. -/
theorem utf8Runes_flatMap_append (chars : List Char) (rest : Bytes) :
    utf8Runes (chars.flatMap String.utf8EncodeChar ++ rest) = chars ++ utf8Runes rest := by
  induction chars with
  | nil => rfl
  | cons char more ih =>
    rw [List.flatMap_cons, List.append_assoc, utf8Runes_encode, ih]
    rfl

theorem utf8Runes_flatMap (chars : List Char) :
    utf8Runes (chars.flatMap String.utf8EncodeChar) = chars := by
  have decoded := utf8Runes_flatMap_append chars []
  rw [List.append_nil] at decoded
  rw [decoded]
  exact List.append_nil chars

theorem utf8Bytes_eq (text : String) :
    utf8Bytes text = text.toList.flatMap String.utf8EncodeChar := by
  rw [utf8Bytes, ← String.utf8Encode_toList, List.utf8Encode]
  exact List.toList_data_toByteArray

theorem runes_eq (text : String) : runes text = text.toList := by
  rw [runes, utf8Bytes_eq, utf8Runes_flatMap]

theorem goString_utf8Bytes (text : String) : goString (utf8Bytes text) = text := by
  rw [goString, utf8Bytes_eq, utf8Runes_flatMap, String.ofList_toList]

theorem utf8Bytes_ofList (chars : List Char) :
    utf8Bytes (String.ofList chars) = chars.flatMap String.utf8EncodeChar := by
  rw [utf8Bytes_eq, String.toList_ofList]

end Cosign.Encoding
