import Cosign.Encoding.Hex
import Cosign.Encoding.Unmarshal
import Cosign.Encoding.Utf8

/-!
# Reading back what is written as JSON

What `render` writes for a tree, `parse` reads as that tree (`parse_marshal`), whatever strings it
holds, if its numbers are literals of the grammar and it is not nested deeper than the scanner
allows (`Writable`); a deeper one is not read (`parse_marshal_deep`).
-/
namespace Cosign.Encoding

variable {char : Char} {tree : Json} {input after rest : List Char}

namespace Json

/-! ## Strings -/

theorem hex4_digits {code : Nat} (small : code < 65536) :
    hex4 (Hex.digit (code / 4096 % 16)) (Hex.digit (code / 256 % 16))
      (Hex.digit (code / 16 % 16)) (Hex.digit (code % 16)) = some code := by
  have first := Hex.value_digit (code / 4096 % 16) (Nat.mod_lt _ (by decide))
  have second := Hex.value_digit (code / 256 % 16) (Nat.mod_lt _ (by decide))
  have third := Hex.value_digit (code / 16 % 16) (Nat.mod_lt _ (by decide))
  have fourth := Hex.value_digit (code % 16) (Nat.mod_lt _ (by decide))
  simp only [hex4, first, second, third, fourth, Option.bind_eq_bind, Option.bind_some]
  have whole : ((code / 4096 % 16 * 16 + code / 256 % 16) * 16 + code / 16 % 16) * 16 + code % 16 =
      code := by omega
  rw [whole]

/-- What is read in front of a character that was read. -/
def prepend (char : Char) (read : List Char × List Char) : List Char × List Char :=
  (char :: read.1, read.2)

theorem stringTail_escapeCode (small : char.toNat < 0xD800) (rest : List Char) :
    stringTail none (escapeCode char.toNat ++ rest) =
      (stringTail none rest).map (prepend char) := by
  show stringTail none ('\\' :: 'u' :: _ :: _ :: _ :: _ :: rest) = _
  rw [stringTail, hex4_digits (by omega)]
  have low : ¬(0xD800 ≤ char.toNat ∧ char.toNat < 0xDC00) := by omega
  have high : ¬(0xDC00 ≤ char.toNat ∧ char.toNat < 0xE000) := by omega
  simp only [Option.bind_eq_bind, Option.bind_some, if_neg low, if_neg high, Char.ofNat_toNat]
  cases stringTail none rest with
  | none => rfl
  | some read => rfl

theorem stringTail_simple {char letter : Char} (escapes : simpleEscape letter = some char)
    (plain : letter ≠ 'u') (rest : List Char) :
    stringTail none ('\\' :: letter :: rest) = (stringTail none rest).map (prepend char) := by
  rw [stringTail.eq_def]
  split
  · rename_i same
    cases same
  · rename_i same
    cases same
  · rename_i same
    exact absurd (List.cons.inj (List.cons.inj same).2).1 plain
  · rename_i found after _ same
    rw [← (List.cons.inj (List.cons.inj same).2).1, ← (List.cons.inj (List.cons.inj same).2).2,
      escapes]
    cases stringTail none rest with
    | none => rfl
    | some read => rfl
  · rename_i unescaped same
    obtain ⟨slash, letterIs⟩ := List.cons.inj same
    exact absurd letterIs.symm (unescaped _ _ slash.symm)

theorem stringTail_plain (quote : char ≠ '"') (slash : char ≠ '\\') (printing : ¬char.toNat < 0x20)
    (rest : List Char) :
    stringTail none (char :: rest) = (stringTail none rest).map (prepend char) := by
  rw [stringTail.eq_def]
  split
  · rename_i same
    cases same
  · rename_i same
    exact absurd (List.cons.inj same).1 quote
  · rename_i same
    exact absurd (List.cons.inj same).1 slash
  · rename_i same
    exact absurd (List.cons.inj same).1 slash
  · rename_i same
    rw [← (List.cons.inj same).1, ← (List.cons.inj same).2, if_neg printing]
    cases stringTail none rest with
    | none => rfl
    | some read => rfl

theorem stringTail_escapeChar (char : Char) (rest : List Char) :
    stringTail none (escapeChar char ++ rest) = (stringTail none rest).map (prepend char) := by
  unfold escapeChar
  by_cases quoted : char = '"' ∨ char = '\\'
  · rw [if_pos (by simpa using quoted)]
    refine stringTail_simple ?_ ?_ rest
    · cases quoted with
      | inl same => rw [same]; rfl
      | inr same => rw [same]; rfl
    · cases quoted with
      | inl same => rw [same]; decide
      | inr same => rw [same]; decide
  · rw [if_neg (by simpa using quoted)]
    by_cases newline : char = '\n'
    · rw [if_pos newline, newline]
      exact stringTail_simple rfl (by decide) rest
    rw [if_neg newline]
    by_cases carriage : char = '\r'
    · rw [if_pos carriage, carriage]
      exact stringTail_simple rfl (by decide) rest
    rw [if_neg carriage]
    by_cases tab : char = '\t'
    · rw [if_pos tab, tab]
      exact stringTail_simple rfl (by decide) rest
    rw [if_neg tab]
    split
    · rename_i coded
      refine stringTail_escapeCode ?_ rest
      simp only [Bool.or_eq_true, decide_eq_true_eq] at coded
      have less : ('<' : Char).toNat = 60 := by decide
      have greater : ('>' : Char).toNat = 62 := by decide
      have ampersand : ('&' : Char).toNat = 38 := by decide
      rcases coded with ((((small | same) | same) | same) | same) | same
      · omega
      · rw [same, less]; decide
      · rw [same, greater]; decide
      · rw [same, ampersand]; decide
      · omega
      · omega
    · rename_i uncoded
      simp only [Bool.or_eq_true, decide_eq_true_eq, not_or] at uncoded
      exact stringTail_plain (fun same => quoted (.inl same)) (fun same => quoted (.inr same))
        uncoded.1.1.1.1.1 rest

/-- A written string, up to its closing quote, is read as the string. -/
theorem stringTail_escaped (text rest : List Char) :
    stringTail none (text.flatMap escapeChar ++ '"' :: rest) = some (text, rest) := by
  induction text with
  | nil => rfl
  | cons char others ih =>
    rw [List.flatMap_cons, List.append_assoc, stringTail_escapeChar, ih]
    rfl

/-! ## Numbers -/

/-- What follows a value inside a text: nothing, a comma or a closing bracket. -/
def Ends (rest : List Char) : Prop :=
  ∀ char ∈ rest.head?, char = ',' ∨ char = ']' ∨ char = '}'

/-- A literal of the grammar: it starts like a number, and before anything that ends a value it
is read as itself. -/
structure IsNumber (literal : String) : Prop where
  /-- It starts with a digit or a minus sign. -/
  starts : ∃ char ∈ literal.toList.head?, char = '-' ∨ 48 ≤ char.toNat ∧ char.toNat ≤ 57
  /-- It is read as itself. -/
  reads : ∀ rest, Ends rest → number (literal.toList ++ rest) = some (.num literal, rest)

/-! ## Trees -/

mutual

/-- A tree whose numbers are literals of the grammar and which is not nested deeper than the
limit. -/
def Writable (limit : Nat) : Json → Prop
  | .null => True
  | .bool _ => True
  | .num literal => IsNumber literal
  | .str _ => True
  | .arr elements => 0 < limit ∧ WritableElements (limit - 1) elements
  | .obj members => 0 < limit ∧ WritableMembers (limit - 1) members

/-- Elements of an array that can be written. -/
def WritableElements (limit : Nat) : List Json → Prop
  | [] => True
  | first :: rest => Writable limit first ∧ WritableElements limit rest

/-- Members of an object that can be written. -/
def WritableMembers (limit : Nat) : List (String × Json) → Prop
  | [] => True
  | (_, first) :: rest => Writable limit first ∧ WritableMembers limit rest

end

/-- What a value starts with. -/
def StartsValue (char : Char) : Prop :=
  char = 'n' ∨ char = 't' ∨ char = 'f' ∨ char = '"' ∨ char = '[' ∨ char = '{' ∨ char = '-' ∨
    48 ≤ char.toNat ∧ char.toNat ≤ 57

theorem render_starts {limit : Nat} (writable : Writable limit tree) :
    ∃ char rest, render tree = char :: rest ∧ StartsValue char := by
  cases tree with
  | null => exact ⟨_, _, rfl, .inl rfl⟩
  | bool truth =>
    cases truth with
    | true => exact ⟨_, _, rfl, .inr (.inl rfl)⟩
    | false => exact ⟨_, _, rfl, .inr (.inr (.inl rfl))⟩
  | num literal =>
    have number : IsNumber literal := by simpa only [Writable] using writable
    obtain ⟨char, found, either⟩ := number.starts
    obtain ⟨rest, textIs⟩ := List.head?_eq_some_iff.mp found
    refine ⟨char, rest, ?_, ?_⟩
    · rw [render, runes_eq, textIs]
    · cases either with
      | inl minus => exact .inr (.inr (.inr (.inr (.inr (.inr (.inl minus))))))
      | inr digit => exact .inr (.inr (.inr (.inr (.inr (.inr (.inr digit))))))
  | str text => exact ⟨_, _, by rw [render]; rfl, .inr (.inr (.inr (.inl rfl)))⟩
  | arr elements => exact ⟨_, _, by rw [render]; rfl, .inr (.inr (.inr (.inr (.inl rfl))))⟩
  | obj members => exact ⟨_, _, by rw [render]; rfl, .inr (.inr (.inr (.inr (.inr (.inl rfl)))))⟩

theorem skipSpace_startsValue (starts : StartsValue char) (rest : List Char) :
    skipSpace (char :: rest) = char :: rest := by
  have unblank : ¬(char = ' ' ∨ char = '\t' ∨ char = '\n' ∨ char = '\r') := by
    intro blank
    unfold StartsValue at starts
    rcases blank with rfl | rfl | rfl | rfl <;> revert starts <;> decide
  unfold skipSpace
  rw [if_neg (by simpa [or_assoc] using unblank)]

theorem value_number (starts : char = '-' ∨ 48 ≤ char.toNat ∧ char.toNat ≤ 57) (fuel limit : Nat)
    (rest : List Char) :
    value (fuel + 1) limit (char :: rest) = number (char :: rest) := by
  have started : StartsValue char := by
    cases starts with
    | inl minus => exact .inr (.inr (.inr (.inr (.inr (.inr (.inl minus))))))
    | inr digit => exact .inr (.inr (.inr (.inr (.inr (.inr (.inr digit))))))
  have distinct : ∀ other : Char, other ∈ ['n', 't', 'f', '"', '[', '{'] → char ≠ other := by
    intro other listed same
    rw [same] at starts
    simp only [List.mem_cons, List.not_mem_nil, or_false] at listed
    rcases listed with rfl | rfl | rfl | rfl | rfl | rfl <;> revert starts <;> decide
  rw [value, skipSpace_startsValue started]
  split
  all_goals first
    | rfl
    | (rename_i same
       exact absurd (List.cons.inj same).1 (distinct _ (by decide)))

theorem quote_append (text : String) (rest : List Char) :
    quote text ++ rest = '"' :: (text.toList.flatMap escapeChar ++ '"' :: rest) := by
  unfold quote
  rw [runes_eq, List.cons_append, List.cons_append, List.append_assoc]
  rfl

theorem value_quote (text : String) (fuel limit : Nat) (rest : List Char) :
    value (fuel + 1) limit (quote text ++ rest) = some (.str text, rest) := by
  rw [quote_append, value, skipSpace_startsValue (.inr (.inr (.inr (.inl rfl))))]
  simp only [stringTail_escaped, Option.bind_eq_bind, Option.bind_some, String.ofList_toList]

/-- Nothing is skipped in front of written elements, and they do not start with a bracket that
closes the array. -/
theorem renderElements_starts {limit : Nat} {first : Json} (others : List Json)
    (writable : Writable limit first) (rest : List Char) :
    ∃ char tail, renderElements (first :: others) ++ rest = char :: tail ∧ StartsValue char := by
  obtain ⟨char, tail, textIs, starts⟩ := render_starts writable
  cases others with
  | nil =>
    refine ⟨char, tail ++ rest, ?_, starts⟩
    rw [renderElements, textIs]
    rfl
  | cons second others =>
    refine ⟨char, tail ++ ',' :: renderElements (second :: others) ++ rest, ?_, starts⟩
    rw [renderElements, textIs]
    · rfl
    · simp

theorem value_arr {fuel limit : Nat} {first : Json} {others : List Json} {rest : List Char}
    (deep : 0 < limit) (writable : Writable (limit - 1) first)
    (read : elements fuel (limit - 1) (renderElements (first :: others) ++ ']' :: rest) =
      some (first :: others, rest)) :
    value (fuel + 1) limit (render (.arr (first :: others)) ++ rest) =
      some (.arr (first :: others), rest) := by
  obtain ⟨char, tail, textIs, starts⟩ := renderElements_starts others writable (']' :: rest)
  have shape : render (.arr (first :: others)) ++ rest = '[' :: char :: tail := by
    rw [render, List.cons_append, List.cons_append, List.append_assoc, ← textIs]
    rfl
  have unclosed : char ≠ ']' := by
    intro same
    rw [same] at starts
    revert starts
    unfold StartsValue
    decide
  rw [textIs] at read
  rw [shape, value, skipSpace_startsValue (.inr (.inr (.inr (.inr (.inl rfl)))))]
  simp only [skipSpace_startsValue starts, if_neg (Nat.ne_of_gt deep)]
  split
  · rename_i same
    exact absurd (List.cons.inj same).1 unclosed
  · rw [read]
    rfl

theorem renderMembers_starts (name : String) (first : Json) (others : List (String × Json))
    (rest : List Char) :
    ∃ tail, renderMembers ((name, first) :: others) ++ rest = '"' :: tail := by
  cases others with
  | nil => exact ⟨_, by rw [renderMembers]; rfl⟩
  | cons second others => exact ⟨_, by rw [renderMembers]; rfl; simp⟩

theorem value_obj {fuel limit : Nat} {member : String × Json} {others : List (String × Json)}
    {rest : List Char} (deep : 0 < limit)
    (read : members fuel (limit - 1) (renderMembers (member :: others) ++ '}' :: rest) =
      some (member :: others, rest)) :
    value (fuel + 1) limit (render (.obj (member :: others)) ++ rest) =
      some (.obj (member :: others), rest) := by
  obtain ⟨tail, textIs⟩ := renderMembers_starts member.1 member.2 others ('}' :: rest)
  have shape : render (.obj (member :: others)) ++ rest = '{' :: '"' :: tail := by
    rw [render, List.cons_append, List.cons_append, List.append_assoc, ← textIs]
    rfl
  rw [textIs] at read
  rw [shape, value, skipSpace_startsValue (.inr (.inr (.inr (.inr (.inr (.inl rfl))))))]
  simp only [skipSpace_startsValue (.inr (.inr (.inr (.inl rfl)))), if_neg (Nat.ne_of_gt deep)]
  split
  · rename_i same
    exact absurd (List.cons.inj same).1 (by decide)
  · rw [read]
    rfl

theorem ends_comma (rest : List Char) : Ends (',' :: rest) := by
  intro char found
  rw [← Option.some.inj found]
  exact .inl rfl

theorem ends_bracket (rest : List Char) : Ends (']' :: rest) := by
  intro char found
  rw [← Option.some.inj found]
  exact .inr (.inl rfl)

theorem ends_brace (rest : List Char) : Ends ('}' :: rest) := by
  intro char found
  rw [← Option.some.inj found]
  exact .inr (.inr rfl)

theorem members_last {fuel limit : Nat} {name : String} {input rest : List Char}
    (read : value fuel limit input = some (tree, '}' :: rest)) :
    members (fuel + 1) limit (quote name ++ ':' :: input) = some ([(name, tree)], rest) := by
  have colon : skipSpace (':' :: input) = ':' :: input := rfl
  have brace : skipSpace ('}' :: rest) = '}' :: rest := rfl
  rw [quote_append, members, skipSpace_startsValue (.inr (.inr (.inr (.inl rfl))))]
  simp only [stringTail_escaped, Option.bind_eq_bind, Option.bind_some, String.ofList_toList, colon,
    read, brace]

theorem members_more {fuel limit : Nat} {name : String} {more : List (String × Json)}
    (read : value fuel limit input = some (tree, ',' :: after))
    (others : members fuel limit after = some (more, rest)) :
    members (fuel + 1) limit (quote name ++ ':' :: input) = some ((name, tree) :: more, rest) := by
  have colon : skipSpace (':' :: input) = ':' :: input := rfl
  have comma : skipSpace (',' :: after) = ',' :: after := rfl
  rw [quote_append, members, skipSpace_startsValue (.inr (.inr (.inr (.inl rfl))))]
  simp only [stringTail_escaped, Option.bind_eq_bind, Option.bind_some, String.ofList_toList, colon,
    read, comma, others]

theorem elements_last {fuel limit : Nat} {input rest : List Char}
    (read : value fuel limit input = some (tree, ']' :: rest)) :
    elements (fuel + 1) limit input = some ([tree], rest) := by
  have bracket : skipSpace (']' :: rest) = ']' :: rest := rfl
  rw [elements]
  simp only [read, Option.bind_eq_bind, Option.bind_some, bracket]

theorem elements_more {fuel limit : Nat} {more : List Json}
    (read : value fuel limit input = some (tree, ',' :: after))
    (others : elements fuel limit after = some (more, rest)) :
    elements (fuel + 1) limit input = some (tree :: more, rest) := by
  have comma : skipSpace (',' :: after) = ',' :: after := rfl
  rw [elements]
  simp only [read, Option.bind_eq_bind, Option.bind_some, comma, others]

/-- With this fuel, every text that is short enough for it is read as its tree. -/
def ReadsValues (fuel : Nat) : Prop :=
  ∀ tree limit rest, Writable limit tree → 2 * (render tree).length ≤ fuel + 1 → Ends rest →
    value fuel limit (render tree ++ rest) = some (tree, rest)

/-- With this fuel, the elements of every array that is short enough for it are read. -/
def ReadsElements (fuel : Nat) : Prop :=
  ∀ first others limit rest, WritableElements limit (first :: others) →
    2 * (renderElements (first :: others)).length ≤ fuel →
    elements fuel limit (renderElements (first :: others) ++ ']' :: rest) =
      some (first :: others, rest)

/-- With this fuel, the members of every object that is short enough for it are read. -/
def ReadsMembers (fuel : Nat) : Prop :=
  ∀ name first others limit rest, WritableMembers limit ((name, first) :: others) →
    2 * (renderMembers ((name, first) :: others)).length ≤ fuel →
    members fuel limit (renderMembers ((name, first) :: others) ++ '}' :: rest) =
      some ((name, first) :: others, rest)

theorem render_length {limit : Nat} (writable : Writable limit tree) :
    0 < (render tree).length := by
  obtain ⟨char, tail, textIs, -⟩ := render_starts writable
  rw [textIs]
  exact Nat.succ_pos _

/-- Values are read when, with less fuel, elements and members are. -/
theorem readsValues_succ {fuel : Nat} (elementsRead : ReadsElements fuel)
    (membersRead : ReadsMembers fuel) : ReadsValues (fuel + 1) := by
  intro tree limit rest writable fueled ends
  match tree with
  | .null => rfl
  | .bool true => rfl
  | .bool false => rfl
  | .num literal =>
    have number : IsNumber literal := by simpa only [Writable] using writable
    obtain ⟨first, found, either⟩ := number.starts
    obtain ⟨others, literalIs⟩ := List.head?_eq_some_iff.mp found
    have read := number.reads rest ends
    rw [render, runes_eq]
    rw [literalIs] at read ⊢
    rw [List.cons_append] at read ⊢
    rw [value_number either, read]
  | .str text =>
    rw [render]
    exact value_quote text fuel limit rest
  | .arr [] =>
    have deep : 0 < limit := by
      simp only [Writable] at writable
      exact writable.1
    show value (fuel + 1) limit ('[' :: ']' :: rest) = _
    rw [value, skipSpace_startsValue (.inr (.inr (.inr (.inr (.inl rfl)))))]
    simp only [if_neg (Nat.ne_of_gt deep)]
    rfl
  | .arr (first :: others) =>
    simp only [Writable] at writable
    have written := writable.2
    simp only [WritableElements] at written
    rw [render, List.length_append, List.length_cons] at fueled
    refine value_arr writable.1 written.1 (elementsRead first others _ rest writable.2 ?_)
    simp only [List.length_cons, List.length_nil] at fueled
    omega
  | .obj [] =>
    have deep : 0 < limit := by
      simp only [Writable] at writable
      exact writable.1
    show value (fuel + 1) limit ('{' :: '}' :: rest) = _
    rw [value, skipSpace_startsValue (.inr (.inr (.inr (.inr (.inr (.inl rfl))))))]
    simp only [if_neg (Nat.ne_of_gt deep)]
    rfl
  | .obj ((name, first) :: others) =>
    simp only [Writable] at writable
    rw [render, List.length_append, List.length_cons] at fueled
    refine value_obj writable.1 (membersRead name first others _ rest writable.2 ?_)
    simp only [List.length_cons, List.length_nil] at fueled
    omega

/-- Elements are read when, with less fuel, values and the elements after the first are. -/
theorem readsElements_succ {fuel : Nat} (valuesRead : ReadsValues fuel)
    (elementsRead : ReadsElements fuel) : ReadsElements (fuel + 1) := by
  intro first others limit rest writable fueled
  simp only [WritableElements] at writable
  have long := render_length writable.1
  match others with
  | [] =>
    rw [renderElements] at fueled ⊢
    exact elements_last (valuesRead first limit _ writable.1 (by omega) (ends_bracket rest))
  | second :: others =>
    have shape : renderElements (first :: second :: others) =
        render first ++ ',' :: renderElements (second :: others) := by
      rw [renderElements]
      simp
    rw [shape, List.length_append, List.length_cons] at fueled
    rw [shape, List.append_assoc, List.cons_append]
    refine elements_more (valuesRead first limit _ writable.1 (by omega) (ends_comma _)) ?_
    exact elementsRead second others limit rest writable.2 (by omega)

/-- Members are read when, with less fuel, values and the members after the first are. -/
theorem readsMembers_succ {fuel : Nat} (valuesRead : ReadsValues fuel)
    (membersRead : ReadsMembers fuel) : ReadsMembers (fuel + 1) := by
  intro name first others limit rest writable fueled
  simp only [WritableMembers] at writable
  match others with
  | [] =>
    rw [renderMembers, List.length_append, List.length_cons] at fueled
    rw [renderMembers, List.append_assoc, List.cons_append]
    exact members_last (valuesRead first limit _ writable.1 (by omega) (ends_brace rest))
  | (next, second) :: others =>
    have shape : renderMembers ((name, first) :: (next, second) :: others) =
        quote name ++ ':' :: render first ++ ',' :: renderMembers ((next, second) :: others) := by
      rw [renderMembers]
      simp
    rw [shape, List.length_append, List.length_append, List.length_cons, List.length_cons] at fueled
    rw [shape, List.append_assoc, List.append_assoc, List.cons_append, List.cons_append]
    refine members_more (valuesRead first limit _ writable.1 (by omega) (ends_comma _)) ?_
    exact membersRead next second others limit rest writable.2 (by omega)

theorem reads_all (fuel : Nat) : ReadsValues fuel ∧ ReadsElements fuel ∧ ReadsMembers fuel := by
  induction fuel with
  | zero =>
    refine ⟨fun tree limit rest writable fueled => ?_,
      fun first others limit rest writable fueled => ?_,
      fun name first others limit rest writable fueled => ?_⟩
    · have long := render_length writable
      omega
    · simp only [WritableElements] at writable
      obtain ⟨char, tail, textIs, -⟩ := renderElements_starts others writable.1 []
      rw [List.append_nil] at textIs
      rw [textIs, List.length_cons] at fueled
      omega
    · obtain ⟨tail, textIs⟩ := renderMembers_starts name first others []
      rw [List.append_nil] at textIs
      rw [textIs, List.length_cons] at fueled
      omega
  | succ fuel ih =>
    obtain ⟨values, elements, members⟩ := ih
    exact ⟨readsValues_succ elements members, readsElements_succ values elements,
      readsMembers_succ values members⟩

/-- **What is written is read back**, for every tree the scanner can hold. -/
theorem parse_marshal (writable : Writable maxNestingDepth tree) :
    parse (marshal tree) = some tree := by
  have ends : Ends [] := by
    intro char found
    cases found
  have read := (reads_all (2 * (render tree).length + 1)).1 tree maxNestingDepth [] writable
    (by omega) ends
  rw [List.append_nil] at read
  unfold parse marshal
  rw [utf8Runes_flatMap]
  unfold parseText
  rw [read]
  rfl

/-- With this fuel, what is read is nested no deeper than the limit, and would be read with a
higher limit. -/
def BoundsValues (fuel : Nat) : Prop :=
  ∀ limit more input tree rest, limit ≤ more → value fuel limit input = some (tree, rest) →
    value fuel more input = some (tree, rest) ∧ ∀ any, Writable any tree → Writable limit tree

/-- The same of the elements of an array. -/
def BoundsElements (fuel : Nat) : Prop :=
  ∀ limit more input trees rest, limit ≤ more → elements fuel limit input = some (trees, rest) →
    elements fuel more input = some (trees, rest) ∧
      ∀ any, WritableElements any trees → WritableElements limit trees

/-- The same of the members of an object. -/
def BoundsMembers (fuel : Nat) : Prop :=
  ∀ limit more input trees rest, limit ≤ more → members fuel limit input = some (trees, rest) →
    members fuel more input = some (trees, rest) ∧
      ∀ any, WritableMembers any trees → WritableMembers limit trees

/-- Elements are bounded when, with less fuel, values and the elements after the first are. -/
theorem boundsElements_succ {fuel : Nat} (values : BoundsValues fuel)
    (others : BoundsElements fuel) : BoundsElements (fuel + 1) := by
  intro limit more input trees rest higher read
  rw [elements] at read ⊢
  have ⟨⟨first, after⟩, readFirst, read⟩ := Option.bind_eq_some_iff.mp read
  have ⟨again, bounded⟩ := values limit more input first after higher readFirst
  rw [again]
  dsimp only [Option.bind_eq_bind, Option.bind_some] at read ⊢
  split at read
  · have ⟨⟨later, last⟩, readLater, read⟩ := Option.bind_eq_some_iff.mp read
    have ⟨againLater, boundedLater⟩ := others limit more _ later last higher readLater
    cases read
    rw [againLater]
    refine ⟨rfl, fun any writable => ?_⟩
    simp only [WritableElements] at writable ⊢
    exact ⟨bounded any writable.1, boundedLater any writable.2⟩
  · cases read
    refine ⟨rfl, fun any writable => ?_⟩
    simp only [WritableElements] at writable ⊢
    exact ⟨bounded any writable.1, trivial⟩
  · cases read

/-- Members are bounded when, with less fuel, values and the members after the first are. -/
theorem boundsMembers_succ {fuel : Nat} (values : BoundsValues fuel)
    (others : BoundsMembers fuel) : BoundsMembers (fuel + 1) := by
  intro limit more input trees rest higher read
  rw [members] at read ⊢
  split at read
  · have ⟨⟨name, named⟩, readName, read⟩ := Option.bind_eq_some_iff.mp read
    rw [readName]
    dsimp only [Option.bind_eq_bind, Option.bind_some] at read ⊢
    split at read
    · have ⟨⟨first, after⟩, readFirst, read⟩ := Option.bind_eq_some_iff.mp read
      have ⟨again, bounded⟩ := values limit more _ first after higher readFirst
      rw [again]
      dsimp only [Option.bind_some] at read ⊢
      split at read
      · have ⟨⟨later, last⟩, readLater, read⟩ := Option.bind_eq_some_iff.mp read
        have ⟨againLater, boundedLater⟩ := others limit more _ later last higher readLater
        cases read
        rw [againLater]
        refine ⟨rfl, fun any writable => ?_⟩
        simp only [WritableMembers] at writable ⊢
        exact ⟨bounded any writable.1, boundedLater any writable.2⟩
      · cases read
        refine ⟨rfl, fun any writable => ?_⟩
        simp only [WritableMembers] at writable ⊢
        exact ⟨bounded any writable.1, trivial⟩
      · cases read
    · cases read
  · cases read

/-- Values are bounded when, with less fuel, elements and members are. -/
theorem boundsValues_succ {fuel : Nat} (ofElements : BoundsElements fuel)
    (ofMembers : BoundsMembers fuel) : BoundsValues (fuel + 1) := by
  intro limit more input tree rest higher read
  rw [value] at read ⊢
  split at read
  · cases read
    exact ⟨rfl, fun _ _ => trivial⟩
  · cases read
    exact ⟨rfl, fun _ _ => trivial⟩
  · cases read
    exact ⟨rfl, fun _ _ => trivial⟩
  · have ⟨_, readText, same⟩ := Option.bind_eq_some_iff.mp read
    cases same
    exact ⟨read, fun _ _ => trivial⟩
  · split at read
    · cases read
    · rename_i deep
      rw [if_neg (by omega)]
      split at read
      · cases read
        refine ⟨rfl, fun any writable => ?_⟩
        simp only [Writable] at writable ⊢
        exact ⟨by omega, trivial⟩
      · have ⟨⟨found, after⟩, readFound, read⟩ := Option.bind_eq_some_iff.mp read
        have ⟨again, bounded⟩ :=
          ofElements (limit - 1) (more - 1) _ found after (by omega) readFound
        cases read
        simp only [again]
        refine ⟨rfl, fun any writable => ?_⟩
        simp only [Writable] at writable ⊢
        exact ⟨by omega, bounded _ writable.2⟩
  · split at read
    · cases read
    · rename_i deep
      rw [if_neg (by omega)]
      split at read
      · cases read
        refine ⟨rfl, fun any writable => ?_⟩
        simp only [Writable] at writable ⊢
        exact ⟨by omega, trivial⟩
      · have ⟨⟨found, after⟩, readFound, read⟩ := Option.bind_eq_some_iff.mp read
        have ⟨again, bounded⟩ :=
          ofMembers (limit - 1) (more - 1) _ found after (by omega) readFound
        cases read
        simp only [again]
        refine ⟨rfl, fun any writable => ?_⟩
        simp only [Writable] at writable ⊢
        exact ⟨by omega, bounded _ writable.2⟩
  · have ⟨literal, isNumber⟩ : ∃ literal, tree = .num literal := by
      have ⟨_, _, read⟩ := Option.bind_eq_some_iff.mp read
      have ⟨_, _, read⟩ := Option.bind_eq_some_iff.mp read
      have ⟨_, _, read⟩ := Option.bind_eq_some_iff.mp read
      cases read
      exact ⟨_, rfl⟩
    subst isNumber
    exact ⟨read, fun _ writable => writable⟩

theorem bounds_all (fuel : Nat) :
    BoundsValues fuel ∧ BoundsElements fuel ∧ BoundsMembers fuel := by
  induction fuel with
  | zero => exact ⟨nofun, nofun, nofun⟩
  | succ fuel ih =>
    have ⟨values, elements, members⟩ := ih
    exact ⟨boundsValues_succ elements members, boundsElements_succ values elements,
      boundsMembers_succ values members⟩

/-- **A tree that is nested too deeply is not read back as anything.** -/
theorem parse_marshal_deep {limit : Nat} (writable : Writable limit tree)
    (deep : ¬Writable maxNestingDepth tree) : parse (marshal tree) = none := by
  apply Option.eq_none_iff_forall_ne_some.mpr
  intro found parsed
  unfold parse marshal at parsed
  rw [utf8Runes_flatMap] at parsed
  unfold parseText at parsed
  split at parsed
  · rename_i other rest read
    have bounds := (bounds_all (2 * (render tree).length + 1)).1
    have ends : Ends [] := nofun
    have whole := (reads_all (2 * (render tree).length + 1)).1 tree limit [] writable
      (by omega) ends
    rw [List.append_nil] at whole
    have ⟨high, bounded⟩ := bounds _ (max limit maxNestingDepth) _ _ _ (by omega) read
    have ⟨same, _⟩ := bounds _ (max limit maxNestingDepth) _ _ _ (by omega) whole
    cases high.symm.trans same
    exact deep (bounded limit writable)
  · cases parsed

end Json

/-! ## Values that are filled from what was written -/

open Cosign.Go

variable {σ α : Type}

/-- A value that is filled from a tree is decoded from the text of the tree. -/
theorem unmarshal_marshal {fill : Json → Except GoError α}
    (writable : Json.Writable Json.maxNestingDepth tree) :
    unmarshal fill (Json.marshal tree) = fill tree := by
  unfold unmarshal
  rw [Json.parse_marshal writable]

/-- The first member of an object is stored into the field that its name selects. -/
theorem fillMembers_cons {fields : List (StructField σ)} {field : StructField σ} {key : String}
    {value : Json} {rest : List (String × Json)} {filled next : σ}
    (selected : selectField fields key = some field)
    (stored : field.store filled value = .ok next) :
    fillMembers fields filled ((key, value) :: rest) = fillMembers fields next rest := by
  simp only [fillMembers, selected, stored]

/-- Elements that are each filled from what was written for them are filled together. -/
theorem fillElements_map {element : Json → Except GoError α} {write : α → Json}
    (reads : ∀ value, element (write value) = .ok value) (values : List α) :
    fillElements element (values.map write) = .ok values := by
  induction values with
  | nil => rfl
  | cons first rest ih => simp only [List.map_cons, fillElements, reads first, ih]

theorem Json.writableElements_map {limit : Nat} {write : α → Json}
    (writable : ∀ value, Writable limit (write value)) (values : List α) :
    WritableElements limit (values.map write) := by
  induction values with
  | nil => trivial
  | cons first rest ih => exact ⟨writable first, ih⟩

end Cosign.Encoding
