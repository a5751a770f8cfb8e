import Mathlib.Data.List.Infix
import Cosign.Encoding.Bytes

/-!
# White space in byte strings

`strings.TrimSpace` and `strings.Fields` cut a string at the runes of `unicode.IsSpace`. A byte that
starts the UTF-8 form of such a rune is never inside another rune, so the space runes of any byte
string are where their forms stand (`spaceWidth`, `spaceMarks`). A text is a run of space runes and
words (`fields_space`, `fields_word`), and its parts do not depend on what follows a space rune
(`fields_append`).
-/
namespace Cosign.Encoding

/-- The space runes of one byte. -/
def isSpace1 (first : UInt8) : Bool := (9 ≤ first && first ≤ 13) || first = 0x20

/-- The space runes of two bytes: U+0085 and U+00A0. -/
def isSpace2 (first second : UInt8) : Bool := first = 0xC2 && (second = 0x85 || second = 0xA0)

/-- The space runes of three bytes: U+1680, U+2000 to U+200A, U+2028, U+2029, U+202F, U+205F and
U+3000. -/
def isSpace3 (first second third : UInt8) : Bool :=
  (first = 0xE1 && second = 0x9A && third = 0x80) ||
  (first = 0xE2 && second = 0x80 &&
    ((0x80 ≤ third && third ≤ 0x8A) || third = 0xA8 || third = 0xA9 || third = 0xAF)) ||
  (first = 0xE2 && second = 0x81 && third = 0x9F) ||
  (first = 0xE3 && second = 0x80 && third = 0x80)

/-- The number of bytes of the space rune at the front, zero if there is none. -/
def spaceWidth : Bytes → Nat
  | [] => 0
  | [first] => if isSpace1 first then 1 else 0
  | [first, second] => if isSpace1 first then 1 else if isSpace2 first second then 2 else 0
  | first :: second :: third :: _ =>
    if isSpace1 first then 1 else if isSpace2 first second then 2
    else if isSpace3 first second third then 3 else 0

/-- Mark the bytes of space runes; `inside` bytes of a rune are still to be marked. -/
def spaceMarks : Nat → Bytes → List (UInt8 × Bool)
  | _, [] => []
  | inside + 1, byte :: rest => (byte, true) :: spaceMarks inside rest
  | 0, byte :: rest =>
    if spaceWidth (byte :: rest) = 0 then (byte, false) :: spaceMarks 0 rest
    else (byte, true) :: spaceMarks (spaceWidth (byte :: rest) - 1) rest

/-- What stands between the marks. -/
def unmarked (marks : List (UInt8 × Bool)) : List Bytes :=
  ((marks.splitOnP (·.2)).filter (!·.isEmpty)).map fun word => word.map (·.1)

/-- `strings.Fields`. -/
def fields (text : Bytes) : List Bytes := unmarked (spaceMarks 0 text)

/-- The text without the space runes at its front, of which `inside` bytes are still to be left
out. -/
def trimLeft : Nat → Bytes → Bytes
  | _, [] => []
  | inside + 1, _ :: rest => trimLeft inside rest
  | 0, byte :: rest =>
    if spaceWidth (byte :: rest) = 0 then byte :: rest
    else trimLeft (spaceWidth (byte :: rest) - 1) rest

/-- The text without the space runes at its end. -/
def trimRight : Bytes → Bytes
  | [] => []
  | byte :: rest => if fields (byte :: rest) = [] then [] else byte :: trimRight rest

/-- `strings.TrimSpace`. -/
def trimSpace (text : Bytes) : Bytes := trimRight (trimLeft 0 text)

/-! ## Space runes -/

/-- A byte that starts no rune. -/
def continues (byte : UInt8) : Bool := 0x80 ≤ byte && byte ≤ 0xBF

/-- The first byte of a text, if there is one, starts a rune. -/
def Starts (text : Bytes) : Prop := ∀ byte ∈ text.head?, continues byte = false

theorem isSpace2_continues {first second : UInt8} (space : isSpace2 first second = true) :
    first = 0xC2 ∧ continues second = true := by
  simp only [isSpace2, Bool.and_eq_true, Bool.or_eq_true, decide_eq_true_eq] at space
  refine ⟨space.1, ?_⟩
  cases space.2 with
  | inl same => rw [same]; decide
  | inr same => rw [same]; decide

theorem isSpace3_continues {first second third : UInt8}
    (space : isSpace3 first second third = true) :
    (first = 0xE1 ∨ first = 0xE2 ∨ first = 0xE3) ∧ continues second = true ∧
      continues third = true := by
  simp only [isSpace3, continues, Bool.and_eq_true, Bool.or_eq_true, decide_eq_true_eq,
    UInt8.le_iff_toNat_le, ← UInt8.toNat_inj] at space ⊢
  simp only [UInt8.reduceToNat] at space ⊢
  omega

theorem space_cases {text : Bytes} (space : spaceWidth text ≠ 0) :
    (∃ first rest, text = first :: rest ∧ isSpace1 first = true ∧ spaceWidth text = 1) ∨
    (∃ first second rest, text = first :: second :: rest ∧ isSpace2 first second = true ∧
      spaceWidth text = 2) ∨
    ∃ first second third rest, text = first :: second :: third :: rest ∧
      isSpace3 first second third = true ∧ spaceWidth text = 3 := by
  match text with
  | [] => exact absurd rfl space
  | [first] =>
    by_cases one : isSpace1 first = true
    · exact .inl ⟨first, [], rfl, one, if_pos one⟩
    · exact absurd (if_neg one) space
  | [first, second] =>
    by_cases one : isSpace1 first = true
    · exact .inl ⟨first, _, rfl, one, if_pos one⟩
    · by_cases two : isSpace2 first second = true
      · exact .inr (.inl ⟨first, second, _, rfl, two, by simp [spaceWidth, one, two]⟩)
      · exact absurd (by simp [spaceWidth, one, two]) space
  | first :: second :: third :: rest =>
    by_cases one : isSpace1 first = true
    · exact .inl ⟨first, _, rfl, one, if_pos one⟩
    · by_cases two : isSpace2 first second = true
      · exact .inr (.inl ⟨first, second, _, rfl, two, by simp [spaceWidth, one, two]⟩)
      · by_cases three : isSpace3 first second third = true
        · exact .inr (.inr ⟨first, second, third, rest, rfl, three,
            by simp [spaceWidth, one, two, three]⟩)
        · exact absurd (by simp [spaceWidth, one, two, three]) space

theorem spaceWidth_le (text : Bytes) : spaceWidth text ≤ text.length := by
  by_cases space : spaceWidth text = 0
  · omega
  · rcases space_cases space with ⟨_, _, same, _, width⟩ | ⟨_, _, _, same, _, width⟩ |
      ⟨_, _, _, _, same, _, width⟩ <;> rw [width, same] <;> simp

/-- A space rune of one byte is ASCII and no letter, digit or sign. -/
theorem isSpace1_bound {byte : UInt8} (is : isSpace1 byte = true) : byte ≤ 0x20 := by
  simp only [isSpace1, Bool.or_eq_true, Bool.and_eq_true, decide_eq_true_eq,
    UInt8.le_iff_toNat_le, ← UInt8.toNat_inj, UInt8.reduceToNat] at is ⊢
  omega

theorem starts_of_space {text : Bytes} (space : spaceWidth text ≠ 0) : Starts text := by
  rcases space_cases space with ⟨first, _, same, is, _⟩ | ⟨first, second, _, same, is, _⟩ |
    ⟨first, second, third, _, same, is, _⟩ <;> rw [same] <;> intro byte head <;> cases head
  · have bound := isSpace1_bound is
    simp only [continues, Bool.and_eq_false_iff, decide_eq_false_iff_not,
      UInt8.le_iff_toNat_le, UInt8.reduceToNat] at bound ⊢
    omega
  · rw [(isSpace2_continues is).1]
    decide
  · rcases (isSpace3_continues is).1 with lead | lead | lead <;> rw [lead] <;> decide

/-- What follows a text does not change whether it starts with a space rune, unless it continues
the last rune. -/
theorem spaceWidth_append {text rest : Bytes} (nonempty : text ≠ []) (starts : Starts rest) :
    spaceWidth (text ++ rest) = spaceWidth text := by
  have two {first second : UInt8} (starts : continues second = false) :
      isSpace2 first second = false :=
    Bool.eq_false_iff.mpr fun is => Bool.eq_false_iff.mp starts (isSpace2_continues is).2
  have threeSecond {first second third : UInt8} (starts : continues second = false) :
      isSpace3 first second third = false :=
    Bool.eq_false_iff.mpr fun is => Bool.eq_false_iff.mp starts (isSpace3_continues is).2.1
  have threeThird {first second third : UInt8} (starts : continues third = false) :
      isSpace3 first second third = false :=
    Bool.eq_false_iff.mpr fun is => Bool.eq_false_iff.mp starts (isSpace3_continues is).2.2
  match text, rest with
  | [], _ => exact absurd rfl nonempty
  | text, [] => rw [List.append_nil]
  | [first], [byte] =>
    have new := starts byte rfl
    simp [spaceWidth, two new]
  | [first], byte :: third :: more =>
    have new := starts byte rfl
    simp [spaceWidth, two new, threeSecond new]
  | [first, second], byte :: more =>
    have new := starts byte rfl
    simp [spaceWidth, threeThird new]
  | first :: second :: third :: others, byte :: more => rfl

/-- The bytes of a space rune are spaces of one byte or are not ASCII. -/
theorem spaceBytes {text : Bytes} {byte : UInt8}
    (listed : byte ∈ text.take (spaceWidth text)) : byte ≤ 0x20 ∨ 0x80 ≤ byte := by
  have tail {byte : UInt8} (is : continues byte = true) : byte ≤ 0x20 ∨ 0x80 ≤ byte :=
    .inr (of_decide_eq_true (Bool.and_eq_true_iff.mp is).1)
  by_cases space : spaceWidth text = 0
  · rw [space] at listed
    simp at listed
  · rcases space_cases space with ⟨first, _, same, is, width⟩ |
      ⟨first, second, _, same, is, width⟩ | ⟨first, second, third, _, same, is, width⟩ <;>
      rw [width, same] at listed <;>
      simp only [List.take_succ_cons, List.take_zero, List.mem_cons, List.not_mem_nil,
        or_false] at listed
    · exact .inl (listed ▸ isSpace1_bound is)
    · have ⟨lead, more⟩ := isSpace2_continues is
      rcases listed with same | same
      · rw [same, lead]
        decide
      · exact same ▸ tail more
    · have ⟨lead, more, most⟩ := isSpace3_continues is
      rcases listed with same | same | same
      · rcases lead with lead | lead | lead <;> rw [same, lead] <;> decide
      · exact same ▸ tail more
      · exact same ▸ tail most

theorem spaceWidth_take_append {text : Bytes} (space : spaceWidth text ≠ 0) (rest : Bytes) :
    spaceWidth (text.take (spaceWidth text) ++ rest) = spaceWidth text := by
  rcases space_cases space with ⟨first, _, same, is, width⟩ |
    ⟨first, second, _, same, is, width⟩ | ⟨first, second, third, _, same, is, width⟩ <;>
    rw [width, same]
  · match rest with
    | [] => exact if_pos is
    | [_] => exact if_pos is
    | _ :: _ :: _ => exact if_pos is
  · have one : isSpace1 first = false := by
      rw [(isSpace2_continues is).1]
      decide
    cases rest <;> simp [spaceWidth, one, is]
  · have lead := (isSpace3_continues is).1
    have one : isSpace1 first = false := by
      rcases lead with lead | lead | lead <;> rw [lead] <;> decide
    have two : isSpace2 first second = false := by
      rcases lead with lead | lead | lead <;> simp [isSpace2, lead]
    simp [spaceWidth, one, two, is]

/-! ## Words -/

/-- A word: it is not empty and has no space rune in it. -/
structure IsWord (word : Bytes) : Prop where
  /-- It is not empty. -/
  nonempty : word ≠ []
  /-- No space rune starts in it. -/
  spaceless : ∀ tail, tail ≠ [] → tail <:+ word → spaceWidth tail = 0

/-- A text ends a word that stands before it: it is empty or starts with a space rune. -/
def Ends (rest : Bytes) : Prop := rest = [] ∨ spaceWidth rest ≠ 0

theorem Ends.starts {rest : Bytes} (ends : Ends rest) : Starts rest := by
  cases ends with
  | inl empty =>
    subst empty
    nofun
  | inr space => exact starts_of_space space

/-- A text that does not start with a space rune starts with a word. -/
theorem exists_word {text : Bytes} (nonempty : text ≠ []) (other : spaceWidth text = 0) :
    ∃ word rest, text = word ++ rest ∧ IsWord word ∧ Ends rest := by
  induction text with
  | nil => exact absurd rfl nonempty
  | cons byte more ih =>
    -- either the rest of the text ends the word, or its first word goes on with this byte
    by_cases ends : Ends more
    · refine ⟨[byte], more, rfl, ⟨List.cons_ne_nil _ _, ?_⟩, ends⟩
      intro tail nonempty suffix
      have whole : tail = [byte] := by
        cases List.suffix_cons_iff.mp suffix with
        | inl same => exact same
        | inr inside => exact absurd (List.suffix_nil.mp inside) nonempty
      rw [whole, ← spaceWidth_append (List.cons_ne_nil _ _) ends.starts]
      exact other
    · have ⟨notEmpty, notSpace⟩ := not_or.mp ends
      have ⟨word, rest, split, is, later⟩ := ih notEmpty (not_not.mp notSpace)
      refine ⟨byte :: word, rest, by rw [split, List.cons_append], ?_, later⟩
      refine ⟨List.cons_ne_nil _ _, fun tail nonempty suffix => ?_⟩
      cases List.suffix_cons_iff.mp suffix with
      | inr inside => exact is.spaceless tail nonempty inside
      | inl same =>
        rw [same, ← spaceWidth_append (List.cons_ne_nil _ _) later.starts, List.cons_append,
          ← split]
        exact other

/-- What holds of the empty text, and of a text if it holds after its first space rune or its
first word, holds of every text. -/
theorem text_induction {motive : Bytes → Prop} (nil : motive [])
    (space : ∀ text, spaceWidth text ≠ 0 → motive (text.drop (spaceWidth text)) → motive text)
    (word : ∀ word rest, IsWord word → Ends rest → motive rest → motive (word ++ rest))
    (text : Bytes) : motive text := by
  induction bound : text.length using Nat.strong_induction_on generalizing text with
  | h size ih =>
    by_cases empty : text = []
    · exact empty ▸ nil
    · have positive := List.length_pos_iff.mpr empty
      by_cases other : spaceWidth text = 0
      · have ⟨first, rest, split, is, ends⟩ := exists_word empty other
        subst split
        have shorter := List.length_pos_iff.mpr is.nonempty
        rw [List.length_append] at bound
        exact word first rest is ends (ih rest.length (by omega) rest rfl)
      · apply space text other
        exact ih _ (by rw [List.length_drop]; omega) _ rfl

/-! ## Fields -/

theorem unmarked_append (left right : List (UInt8 × Bool)) (byte : UInt8) :
    unmarked (left ++ (byte, true) :: right) = unmarked left ++ unmarked right := by
  unfold unmarked
  rw [List.splitOnP_append_cons left right rfl, List.filter_append, List.map_append]

theorem unmarked_cons (right : List (UInt8 × Bool)) (byte : UInt8) :
    unmarked ((byte, true) :: right) = unmarked right := unmarked_append [] right byte

/-- The bytes of a space rune that are still to be marked belong to no field. -/
theorem unmarked_inside (inside : Nat) (text : Bytes) :
    unmarked (spaceMarks inside text) = fields (text.drop inside) := by
  induction inside generalizing text with
  | zero => rfl
  | succ inside ih =>
    cases text with
    | nil => rfl
    | cons byte rest =>
      rw [spaceMarks, unmarked_cons, ih, List.drop_succ_cons]

theorem fields_space {text : Bytes} (space : spaceWidth text ≠ 0) :
    fields text = fields (text.drop (spaceWidth text)) := by
  cases text with
  | nil => exact absurd rfl space
  | cons byte rest =>
    have width : spaceWidth (byte :: rest) = spaceWidth (byte :: rest) - 1 + 1 := by omega
    rw [fields, spaceMarks, if_neg space, unmarked_cons, unmarked_inside]
    nth_rewrite 2 [width]
    rw [List.drop_succ_cons]

/-- The marks of a text do not depend on what follows it, if that starts a rune. -/
theorem spaceMarks_append {text rest : Bytes} {inside : Nat} (fits : inside ≤ text.length)
    (starts : Starts rest) :
    spaceMarks inside (text ++ rest) = spaceMarks inside text ++ spaceMarks 0 rest := by
  induction text generalizing inside with
  | nil =>
    have start : inside = 0 := by simpa using fits
    rw [start]
    rfl
  | cons byte more ih =>
    rw [List.length_cons] at fits
    cases inside with
    | succ inside =>
      rw [List.cons_append, spaceMarks, spaceMarks, ih (by omega), List.cons_append]
    | zero =>
      have same := spaceWidth_append (List.cons_ne_nil byte more) starts
      have short := spaceWidth_le (byte :: more)
      rw [List.length_cons] at short
      rw [List.cons_append] at same ⊢
      rw [spaceMarks, spaceMarks, same]
      split
      · rw [ih (by omega), List.cons_append]
      · rw [ih (by omega), List.cons_append]

/-- The fields of a text before one that starts with a space rune. -/
theorem fields_append {text rest : Bytes} (ends : Ends rest) :
    fields (text ++ rest) = fields text ++ fields rest := by
  unfold fields
  rw [spaceMarks_append (Nat.zero_le _) ends.starts]
  cases rest with
  | nil => simp [spaceMarks, unmarked]
  | cons byte more =>
    cases ends with
    | inl empty => cases empty
    | inr space => rw [spaceMarks, if_neg space, unmarked_append, unmarked_cons]

theorem IsWord.fields {word : Bytes} (is : IsWord word) : fields word = [word] := by
  have marks : ∀ tail, tail <:+ word → spaceMarks 0 tail = tail.map (·, false) := by
    intro tail
    induction tail with
    | nil => exact fun _ => rfl
    | cons byte rest ih =>
      intro suffix
      rw [spaceMarks, if_pos (is.spaceless _ (List.cons_ne_nil _ _) suffix),
        ih ((List.suffix_cons byte rest).trans suffix)]
      rfl
  unfold Encoding.fields unmarked
  rw [marks word (List.suffix_refl word),
    List.splitOnP_eq_singleton (by simp)]
  have nonempty := is.nonempty
  simp [nonempty, Function.comp_def]

theorem fields_word {word rest : Bytes} (is : IsWord word) (ends : Ends rest) :
    fields (word ++ rest) = word :: fields rest := by
  rw [fields_append ends, is.fields]
  rfl

theorem isWord_of_mem_fields {text word : Bytes} (listed : word ∈ fields text) : IsWord word := by
  induction text using text_induction with
  | nil => simp [fields, spaceMarks, unmarked] at listed
  | space text space ih => exact ih (fields_space space ▸ listed)
  | word first rest is ends ih =>
    rw [fields_word is ends] at listed
    cases List.mem_cons.mp listed with
    | inl same => exact same ▸ is
    | inr later => exact ih later

theorem ends_of_fields {text : Bytes} (blank : fields text = []) : Ends text := by
  by_cases empty : text = []
  · exact .inl empty
  · apply Or.inr
    intro other
    have ⟨word, rest, split, is, ends⟩ := exists_word empty other
    rw [split, fields_word is ends] at blank
    cases blank

/-! ## Trimming -/

theorem fields_trimLeft (inside : Nat) (text : Bytes) :
    fields (trimLeft inside text) = fields (text.drop inside) := by
  fun_induction trimLeft inside text with
  | case1 => simp
  | case2 inside byte rest ih => rw [ih, List.drop_succ_cons]
  | case3 byte rest other => rfl
  | case4 byte rest space ih =>
    have width : spaceWidth (byte :: rest) = spaceWidth (byte :: rest) - 1 + 1 := by omega
    rw [ih, List.drop_zero, fields_space space]
    nth_rewrite 2 [width]
    rw [List.drop_succ_cons]

/-- Trimming at the front leaves nothing or a text that starts with no space rune. -/
theorem spaceWidth_trimLeft (inside : Nat) (text : Bytes) :
    spaceWidth (trimLeft inside text) = 0 := by
  fun_induction trimLeft inside text with
  | case1 => rfl
  | case2 inside byte rest ih => exact ih
  | case3 byte rest other => exact other
  | case4 byte rest space ih => exact ih

theorem trimRight_split (text : Bytes) :
    ∃ trail, text = trimRight text ++ trail ∧ fields trail = [] := by
  induction text with
  | nil => exact ⟨[], rfl, rfl⟩
  | cons byte rest ih =>
    unfold trimRight
    split
    · rename_i blank
      exact ⟨byte :: rest, rfl, blank⟩
    · have ⟨trail, split, blank⟩ := ih
      exact ⟨trail, by rw [List.cons_append, ← split], blank⟩

theorem fields_trimSpace (text : Bytes) : fields (trimSpace text) = fields text := by
  have ⟨trail, split, blank⟩ := trimRight_split (trimLeft 0 text)
  have whole := fields_trimLeft 0 text
  rw [split, fields_append (ends_of_fields blank), blank, List.append_nil] at whole
  exact whole

theorem spaceWidth_trimSpace (text : Bytes) : spaceWidth (trimSpace text) = 0 := by
  have ⟨trail, split, blank⟩ := trimRight_split (trimLeft 0 text)
  have whole := spaceWidth_trimLeft 0 text
  by_cases empty : trimSpace text = []
  · rw [empty]
    rfl
  · rw [split] at whole
    exact (spaceWidth_append empty (ends_of_fields blank).starts).symm.trans whole

theorem trimSpace_eq_nil {text : Bytes} (blank : fields text = []) : trimSpace text = [] := by
  cases ends_of_fields ((fields_trimSpace text).trans blank) with
  | inl empty => exact empty
  | inr space => exact absurd (spaceWidth_trimSpace text) space

/-- A trimmed text starts with the first field of the text, and the others follow. -/
theorem trimSpace_eq_word {text first : Bytes} {others : List Bytes}
    (listed : fields text = first :: others) :
    ∃ rest, trimSpace text = first ++ rest ∧ Ends rest ∧ fields rest = others := by
  have same := (fields_trimSpace text).trans listed
  have nonempty : trimSpace text ≠ [] := by
    intro empty
    rw [empty] at same
    cases same
  have ⟨word, rest, split, is, ends⟩ := exists_word nonempty (spaceWidth_trimSpace text)
  rw [split, fields_word is ends] at same
  cases same
  exact ⟨rest, split, ends, rfl⟩

end Cosign.Encoding
