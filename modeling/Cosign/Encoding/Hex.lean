import Cosign.Encoding.Utf8

/-!
# Hexadecimal texts

`hex.DecodeString` returns the bytes of the pairs of digits in front of the first pair that is none,
and an error if there is more. Without the error, the bytes are those of every text that starts with
their encoding and does not go on with two digits (`decodePrefix_eq_iff`); with it, of their
encoding only (`encodes_decodePrefix_iff`).
-/
namespace Cosign.Encoding.Hex

variable {char : Char} {number : Nat} {chars : List Char} {bytes : Bytes}

/-- A digit of either case. -/
def isDigit (char : Char) : Bool := (value char).isSome

/-- Whether `hex.DecodeString` returns an error: for a character that is no digit, or an unpaired
last one. -/
def malformed : List Char → Bool
  | [] => false
  | [_] => true
  | high :: low :: rest => !isDigit high || !isDigit low || malformed rest

/-- The text goes on with two digits. -/
def startsWithPair : List Char → Bool
  | high :: low :: _ => isDigit high && isDigit low
  | _ => false

/-- The text is the hexadecimal encoding of the bytes, but for the case of its letters. -/
def Encodes (chars : List Char) (bytes : Bytes) : Prop :=
  chars.map Char.toLower = runes (encodeToString bytes)

/-! ## Digits -/

theorem value_digit : ∀ number < 16, value (digit number) = some number := by decide

/-- What the characters up to the last digit, and their small forms, are read as. -/
theorem value_table : ∀ code < 103,
    value (Char.ofNat code).toLower = value (Char.ofNat code) ∧
      ∀ number ∈ value (Char.ofNat code),
        number < 16 ∧ (Char.ofNat code).toLower = digit number := by
  decide

/-- A character that is read as a number is not behind the last digit. -/
theorem toNat_lt_of_value (read : value char = some number) :
    char.toNat < 103 := by
  simp only [value] at read
  split at read
  · omega
  · split at read
    · omega
    · split at read
      · omega
      · cases read

theorem toLower_of_value (read : value char = some number) :
    number < 16 ∧ char.toLower = digit number := by
  have tabled := (value_table char.toNat (toNat_lt_of_value read)).2 number
  rw [Char.ofNat_toNat] at tabled
  exact tabled read

theorem value_toLower (char : Char) : value char.toLower = value char := by
  by_cases capital : 'A'.val ≤ char.val ∧ char.val ≤ 'Z'.val
  · have bound : char.toNat ≤ 90 := capital.2
    have tabled := (value_table char.toNat (by omega)).1
    rwa [Char.ofNat_toNat] at tabled
  · have stays : char.toLower = char := dif_neg capital
    rw [stays]

/-- A character is read as a number exactly when its small form is the digit of the number. -/
theorem value_eq_some_iff (small : number < 16) :
    value char = some number ↔ char.toLower = digit number := by
  constructor
  · intro read
    exact (toLower_of_value read).2
  · intro lower
    rw [← value_toLower, lower, value_digit number small]

/-! ## Pairs of digits -/

theorem runes_encodeToString_cons (byte : UInt8) (bytes : Bytes) :
    runes (encodeToString (byte :: bytes)) =
      digit (byte.toNat / 16) :: digit (byte.toNat % 16) :: runes (encodeToString bytes) := by
  rw [runes_eq, runes_eq, encodeToString, encodeToString, String.toList_ofList,
    String.toList_ofList]
  rfl

/-- A text without characters encodes no bytes, and no other text does. -/
theorem encodes_nil : Encodes chars [] ↔ chars = [] := List.map_eq_nil_iff

/-- A text encodes a byte and others exactly when it starts with two digits that are read as the
halves of the byte and goes on with the encoding of the others. -/
theorem encodes_cons {byte : UInt8} :
    Encodes chars (byte :: bytes) ↔
      ∃ high low rest, chars = high :: low :: rest ∧ value high = some (byte.toNat / 16) ∧
        value low = some (byte.toNat % 16) ∧ Encodes rest bytes := by
  have bound := byte.toNat_lt
  have upper : byte.toNat / 16 < 16 := by omega
  have lower : byte.toNat % 16 < 16 := by omega
  unfold Encodes
  rw [runes_encodeToString_cons]
  simp only [value_eq_some_iff upper, value_eq_some_iff lower]
  constructor
  · intro same
    obtain ⟨high, others, rfl, first, same⟩ := List.map_eq_cons_iff.mp same
    obtain ⟨low, rest, rfl, second, same⟩ := List.map_eq_cons_iff.mp same
    exact ⟨high, low, rest, rfl, first, second, same⟩
  · intro ⟨high, low, rest, split, first, second, same⟩
    rw [split, List.map_cons, List.map_cons, first, second, same]

theorem Encodes.length (encodes : Encodes chars bytes) :
    chars.length = 2 * bytes.length := by
  induction bytes generalizing chars with
  | nil =>
    rw [encodes_nil.mp encodes]
    rfl
  | cons byte bytes ih =>
    obtain ⟨high, low, rest, split, -, -, others⟩ := encodes_cons.mp encodes
    rw [split, List.length_cons, List.length_cons, List.length_cons, ih others]
    omega

theorem decodePrefix_pair {high low : Char} {left right : Nat} (upper : value high = some left)
    (lower : value low = some right) (rest : List Char) :
    decodePrefix (high :: low :: rest) = UInt8.ofNat (left * 16 + right) :: decodePrefix rest := by
  simp only [decodePrefix, upper, lower]

theorem decodePrefix_stops (stops : startsWithPair chars = false) :
    decodePrefix chars = [] := by
  match chars with
  | [] => rfl
  | [_] => rfl
  | high :: low :: rest =>
    simp only [startsWithPair, isDigit] at stops
    cases upper : value high with
    | none => simp [decodePrefix, upper]
    | some left =>
      cases lower : value low with
      | none => simp [decodePrefix, upper, lower]
      | some right => simp [upper, lower] at stops

theorem Encodes.decodePrefix {digits : List Char} (encodes : Encodes digits bytes)
    (rest : List Char) : decodePrefix (digits ++ rest) = bytes ++ Hex.decodePrefix rest := by
  induction bytes generalizing digits with
  | nil => rw [encodes_nil.mp encodes, List.nil_append, List.nil_append]
  | cons byte bytes ih =>
    obtain ⟨high, low, others, split, upper, lower, later⟩ := encodes_cons.mp encodes
    have whole : byte.toNat / 16 * 16 + byte.toNat % 16 = byte.toNat := by omega
    rw [split, List.cons_append, List.cons_append, decodePrefix_pair upper lower, ih later, whole,
      UInt8.ofNat_toNat, List.cons_append]

theorem Encodes.malformed {digits : List Char} (encodes : Encodes digits bytes)
    (rest : List Char) : malformed (digits ++ rest) = Hex.malformed rest := by
  induction bytes generalizing digits with
  | nil => rw [encodes_nil.mp encodes, List.nil_append]
  | cons byte bytes ih =>
    obtain ⟨high, low, others, split, upper, lower, later⟩ := encodes_cons.mp encodes
    rw [split, List.cons_append, List.cons_append, Hex.malformed, ih later]
    simp [isDigit, upper, lower]

/-- What does not start with two digits is malformed, unless nothing is left. -/
theorem malformed_of_stops {rest : List Char} (stops : startsWithPair rest = false) :
    malformed rest = false ↔ rest = [] := by
  match rest with
  | [] => simp [malformed]
  | [_] => simp [malformed]
  | high :: low :: rest =>
    rw [startsWithPair, Bool.and_eq_false_iff] at stops
    rcases stops with noDigit | noDigit
    · simp [malformed, noDigit]
    · simp [malformed, noDigit]

/-- A text starts with the encoding of what is decoded, and does not go on with two digits. -/
theorem exists_encodes (chars : List Char) :
    ∃ digits rest, chars = digits ++ rest ∧ Encodes digits (decodePrefix chars) ∧
      startsWithPair rest = false := by
  by_cases pair : startsWithPair chars = true
  · match chars with
    | high :: low :: rest =>
      rw [startsWithPair, Bool.and_eq_true, isDigit, isDigit] at pair
      obtain ⟨left, upper⟩ := Option.isSome_iff_exists.mp pair.1
      obtain ⟨right, lower⟩ := Option.isSome_iff_exists.mp pair.2
      obtain ⟨digits, more, split, encodes, stops⟩ := exists_encodes rest
      have leftSmall := (toLower_of_value upper).1
      have rightSmall := (toLower_of_value lower).1
      have number : (UInt8.ofNat (left * 16 + right)).toNat = left * 16 + right :=
        toNat_ofNat_small _ (by omega)
      have halves : (left * 16 + right) / 16 = left ∧ (left * 16 + right) % 16 = right := by omega
      refine ⟨high :: low :: digits, more, by rw [split]; rfl, ?_, stops⟩
      rw [decodePrefix_pair upper lower, encodes_cons, number, halves.1, halves.2]
      exact ⟨high, low, digits, rfl, upper, lower, encodes⟩
  · have stops := Bool.eq_false_iff.mpr pair
    refine ⟨[], chars, rfl, ?_, stops⟩
    rw [decodePrefix_stops stops]
    exact encodes_nil.mpr rfl

/-! ## The dropped error -/

/-- **What is decoded from a text.** These are the bytes whose encoding the text starts with, if it
does not go on with two digits. -/
theorem decodePrefix_eq_iff :
    decodePrefix chars = bytes ↔
      ∃ digits rest, chars = digits ++ rest ∧ Encodes digits bytes ∧
        startsWithPair rest = false := by
  constructor
  · intro decoded
    rw [← decoded]
    exact exists_encodes chars
  · intro ⟨digits, rest, split, encodes, stops⟩
    rw [split, encodes.decodePrefix, decodePrefix_stops stops, List.append_nil]

/-- **A text is the encoding of what is decoded from it exactly when it is not malformed.** -/
theorem encodes_decodePrefix_iff :
    Encodes chars (decodePrefix chars) ↔ malformed chars = false := by
  obtain ⟨digits, rest, split, encodes, stops⟩ := exists_encodes chars
  have own : malformed chars = malformed rest := by
    rw [split]
    exact encodes.malformed rest
  rw [own, malformed_of_stops stops]
  constructor
  · intro whole
    have lengths := whole.length.trans encodes.length.symm
    rw [split, List.length_append] at lengths
    exact List.length_eq_zero_iff.mp (by omega)
  · intro nothing
    rw [nothing, List.append_nil] at split
    exact split ▸ encodes

end Cosign.Encoding.Hex
