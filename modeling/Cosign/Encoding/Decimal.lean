import Cosign.Encoding.JsonText
import Cosign.Encoding.Unmarshal

/-!
# Integers in JSON

`json.Marshal` writes an `int64` in decimal: the text is a literal of the grammar
(`isNumber_int64`), and `strconv.ParseInt` reads it as the same integer (`parseInt64_toString`).
-/
namespace Cosign.Encoding

namespace Json

/-- A decimal digit. -/
def IsDigit (char : Char) : Prop := 48 ≤ char.toNat ∧ char.toNat ≤ 57

theorem isDigit_toDigits {number : Nat} {char : Char} (listed : char ∈ Nat.toDigits 10 number) :
    IsDigit char := by
  have digit := Nat.isDigit_of_mem_toDigits (by decide) (by decide) listed
  rw [Char.isDigit_iff_toNat] at digit
  exact digit

theorem digits_append {found rest : List Char} (all : ∀ char ∈ found, IsDigit char)
    (stops : ∀ char ∈ rest.head?, ¬IsDigit char) : digits (found ++ rest) = (found, rest) := by
  induction found with
  | nil =>
    cases rest with
    | nil => rfl
    | cons char rest =>
      have stop := stops char rfl
      unfold IsDigit at stop
      rw [List.nil_append, digits, if_neg stop]
  | cons char others ih =>
    have digit := all char List.mem_cons_self
    unfold IsDigit at digit
    rw [List.cons_append, digits, if_pos digit,
      ih fun other inside => all other (List.mem_cons_of_mem _ inside)]

theorem digitChar_ne_zero : ∀ value < 10, 0 < value → value.digitChar ≠ '0' := by decide

theorem toDigits_head {number : Nat} (positive : 0 < number) :
    ∃ char rest, Nat.toDigits 10 number = char :: rest ∧ char ≠ '0' := by
  induction number using Nat.strongRecOn with
  | ind number ih =>
    by_cases small : number < 10
    · exact ⟨number.digitChar, [], Nat.toDigits_of_lt_base small,
        digitChar_ne_zero number small positive⟩
    · have big : 10 ≤ number := by omega
      obtain ⟨char, rest, digitsAre, nonzero⟩ := ih (number / 10) (by omega) (by omega)
      refine ⟨char, rest ++ [(number % 10).digitChar], ?_, nonzero⟩
      rw [Nat.toDigits_of_base_le (by decide) big, digitsAre]
      rfl

theorem Ends.not_digit {rest : List Char} (ends : Ends rest) :
    ∀ char ∈ rest.head?, ¬IsDigit char := by
  intro char found digit
  unfold IsDigit at digit
  rcases ends char found with rfl | rfl | rfl <;> revert digit <;> decide

theorem integer_toDigits (number : Nat) {rest : List Char} (ends : Ends rest) :
    integer (Nat.toDigits 10 number ++ rest) = some (Nat.toDigits 10 number, rest) := by
  have all : ∀ char ∈ Nat.toDigits 10 number, IsDigit char := fun char => isDigit_toDigits
  unfold integer
  rw [digits_append all ends.not_digit]
  by_cases positive : 0 < number
  · obtain ⟨char, others, digitsAre, nonzero⟩ := toDigits_head positive
    rw [digitsAre]
    split
    · rename_i same
      cases same
    · rename_i same
      exact absurd (List.cons.inj (Prod.mk.inj same).1).1 nonzero
    · rename_i same
      rw [(Prod.mk.inj same).1, (Prod.mk.inj same).2]
  · have zero : number = 0 := by omega
    rw [zero]
    rfl

theorem fraction_ends {rest : List Char} (ends : Ends rest) : fraction rest = some ([], rest) := by
  unfold fraction
  split
  · have point : ¬('.' = ',' ∨ '.' = ']' ∨ '.' = '}') := by decide
    exact absurd (ends '.' rfl) point
  · rfl

theorem exponent_ends {rest : List Char} (ends : Ends rest) : exponent rest = some ([], rest) := by
  cases rest with
  | nil => rfl
  | cons char tail =>
    have unmarked : ¬(char = 'e' ∨ char = 'E') := by
      intro mark
      rcases ends char rfl with rfl | rfl | rfl <;> revert mark <;> decide
    have plain : ¬((decide (char = 'e') || decide (char = 'E')) = true) := by simpa using unmarked
    simp only [exponent, if_neg plain]

theorem toDigits_not_minus (count : Nat) (rest tail : List Char) :
    Nat.toDigits 10 count ++ rest ≠ '-' :: tail := by
  intro textIs
  obtain ⟨char, others, digitsAre⟩ := List.exists_cons_of_ne_nil (@Nat.toDigits_ne_nil count 10)
  have digit : IsDigit char := isDigit_toDigits (by rw [digitsAre]; exact List.mem_cons_self)
  rw [digitsAre] at textIs
  rw [(List.cons.inj textIs).1] at digit
  exact absurd digit (by unfold IsDigit; decide)

theorem number_toDigits (count : Nat) {rest : List Char} (ends : Ends rest) :
    number (Nat.toDigits 10 count ++ rest) =
      some (.num (String.ofList (Nat.toDigits 10 count)), rest) := by
  unfold number
  split
  rename_i sign after found
  split at found
  · rename_i tail textIs
    exact absurd textIs (toDigits_not_minus count rest tail)
  · rw [← (Prod.mk.inj found).1, ← (Prod.mk.inj found).2]
    simp only [integer_toDigits count ends, fraction_ends ends, exponent_ends ends,
      Option.bind_eq_bind, Option.bind_some, List.nil_append, List.append_nil]

/-- A minus sign and the digits of a number are read as the literal. -/
theorem number_minus (count : Nat) {rest : List Char} (ends : Ends rest) :
    number ('-' :: (Nat.toDigits 10 count ++ rest)) =
      some (.num (String.ofList ('-' :: Nat.toDigits 10 count)), rest) := by
  simp only [number, integer_toDigits count ends, fraction_ends ends, exponent_ends ends,
    Option.bind_eq_bind, Option.bind_some, List.append_nil, List.singleton_append]

end Json

open Json

/-- The characters of an integer: its digits, after a minus sign when it is negative. -/
theorem toList_toString (value : Int64) :
    (toString value).toList =
      if 0 ≤ value.toInt then Nat.toDigits 10 value.toInt.toNat
      else '-' :: Nat.toDigits 10 (-value.toInt).toNat := by
  show value.toInt.repr.toList = _
  rw [Int.repr_eq_if]
  by_cases positive : 0 ≤ value.toInt
  · rw [if_pos positive, if_pos positive, Nat.toList_repr]
  · rw [if_neg positive, if_neg positive, String.toList_append, Nat.toList_repr]
    rfl

theorem isDigit_or_minus {value : Int64} {char : Char} (listed : char ∈ (toString value).toList) :
    IsDigit char ∨ char = '-' := by
  rw [toList_toString] at listed
  by_cases positive : 0 ≤ value.toInt
  · rw [if_pos positive] at listed
    exact .inl (isDigit_toDigits listed)
  · rw [if_neg positive, List.mem_cons] at listed
    exact listed.symm.imp_left isDigit_toDigits

theorem isNumber_int64 (value : Int64) : IsNumber (toString value) := by
  have textIs := toList_toString value
  have whole : toString value = String.ofList (toString value).toList := String.ofList_toList.symm
  by_cases positive : 0 ≤ value.toInt
  · rw [if_pos positive] at textIs
    obtain ⟨char, others, digitsAre⟩ :=
      List.exists_cons_of_ne_nil (@Nat.toDigits_ne_nil value.toInt.toNat 10)
    have digit : IsDigit char := isDigit_toDigits (by rw [digitsAre]; exact List.mem_cons_self)
    refine ⟨⟨char, ?_, .inr digit⟩, fun rest ends => ?_⟩
    · rw [textIs, digitsAre]
      rfl
    · rw [whole, textIs, String.toList_ofList]
      exact number_toDigits _ ends
  · rw [if_neg positive] at textIs
    refine ⟨⟨'-', ?_, .inl rfl⟩, fun rest ends => ?_⟩
    · rw [textIs]
      rfl
    · rw [whole, textIs, String.toList_ofList]
      exact number_minus _ ends

theorem foldl_digits (chars : List Char) (start : Nat) :
    chars.foldl (fun (total : Int) char => total * 10 + (char.toNat - 48 : Nat)) start =
      Nat.ofDigitChars 10 chars start := by
  induction chars generalizing start with
  | nil => rfl
  | cons char rest ih =>
    rw [List.foldl_cons, Nat.ofDigitChars_cons, ← ih]
    have step : (start : Int) * 10 + (char.toNat - 48 : Nat) =
        ((10 * start + (char.toNat - '0'.toNat) : Nat) : Int) := by
      have zero : '0'.toNat = 48 := rfl
      rw [zero]
      omega
    rw [step]

/-- The digits of a number pass the check of `ParseInt` and add up to the number. -/
theorem parse_digits (count : Nat) :
    ¬(Nat.toDigits 10 count = [] ∨
      (Nat.toDigits 10 count).any (fun char => char.toNat < 48 || 57 < char.toNat) = true) ∧
    (Nat.toDigits 10 count).foldl
      (fun (total : Int) char => total * 10 + (char.toNat - 48 : Nat)) 0 = count := by
  constructor
  · rintro (empty | found)
    · exact Nat.toDigits_ne_nil empty
    · obtain ⟨char, listed, outside⟩ := List.any_eq_true.mp found
      have digit := isDigit_toDigits listed
      unfold IsDigit at digit
      simp only [Bool.or_eq_true, decide_eq_true_eq] at outside
      omega
  · have folded := foldl_digits (Nat.toDigits 10 count) 0
    rw [Nat.ofDigitChars_ten_toDigits] at folded
    exact folded

theorem parseInt64_toString (value : Int64) : parseInt64 (toString value) = some value := by
  have low := Int64.minValue_le_toInt value
  have high := Int64.toInt_le value
  unfold parseInt64
  rw [runes_eq, toList_toString]
  by_cases positive : 0 ≤ value.toInt
  · obtain ⟨allowed, sum⟩ := parse_digits value.toInt.toNat
    rw [if_pos positive]
    split
    rename_i negative digits found
    split at found
    · rename_i tail textIs
      exact absurd textIs (by simpa using toDigits_not_minus value.toInt.toNat [] tail)
    · rw [← (Prod.mk.inj found).1, ← (Prod.mk.inj found).2, if_neg allowed, sum]
      have same : ((value.toInt.toNat : Nat) : Int) = value.toInt := by omega
      simp only [same, Bool.false_eq_true, if_false, if_pos (And.intro low high),
        Int64.ofInt_toInt]
  · obtain ⟨allowed, sum⟩ := parse_digits (-value.toInt).toNat
    have same : -(((-value.toInt).toNat : Nat) : Int) = value.toInt := by omega
    rw [if_neg positive]
    simp only [if_neg allowed, sum, same, if_true, if_pos (And.intro low high), Int64.ofInt_toInt]

end Cosign.Encoding
