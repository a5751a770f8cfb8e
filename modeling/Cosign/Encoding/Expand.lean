import Cosign.Encoding.Text

/-!
# Variables in a text

`os.Expand` replaces `$name` and `${name}` by the values of the variables. A word with an open brace
can take in the words after it; if none has one, the fields of the expanded text are those of its
expanded words (`fields_expand`).
-/
namespace Cosign.Encoding

/-- The dollar sign. -/
def dollar : UInt8 := 36

/-- The opening brace. -/
def openBrace : UInt8 := 123

/-- The closing brace. -/
def closeBrace : UInt8 := 125

/-- `isShellSpecialVar`. -/
def isShellSpecialVar (c : UInt8) : Bool :=
  c = 42 || c = 35 || c = 36 || c = 64 || c = 33 || c = 63 || c = 45 || (48 ≤ c && c ≤ 57)

/-- `isAlphaNum` of package `os`. -/
def isAlphaNum (c : UInt8) : Bool :=
  c = 95 || (48 ≤ c && c ≤ 57) || (97 ≤ c && c ≤ 122) || (65 ≤ c && c ≤ 90)

/-- The name up to the closing brace, and the number of bytes that it takes with the braces; without
a name or a brace only bytes to leave out. -/
def bracedName (rest : Bytes) : Bytes × Nat :=
  let name := rest.takeWhile (· ≠ closeBrace)
  if closeBrace ∈ rest then
    if name = [] then ([], 2) else (name, name.length + 2)
  else ([], 1)

/-- `getShellName`: the name behind a dollar sign and the number of bytes that it takes. -/
def getShellName : Bytes → Bytes × Nat
  | [] => ([], 0)
  | first :: rest =>
    if first = openBrace then
      if rest.head?.any isShellSpecialVar && rest.tail.head? = some closeBrace then
        (rest.take 1, 3)
      else bracedName rest
    else if isShellSpecialVar first then ([first], 1)
    else
      let name := (first :: rest).takeWhile isAlphaNum
      (name, name.length)

/-- What a name is replaced by. Bad syntax is left out; a dollar sign without a name stays. -/
def shellValue (mapping : Bytes → Bytes) (name : Bytes × Nat) : Bytes :=
  if name.1 = [] ∧ 0 < name.2 then []
  else if name.1 = [] then [dollar]
  else mapping name.1

/-- `os.Expand`; `skip` bytes are those of a name that was replaced. -/
def expandFrom (mapping : Bytes → Bytes) : Nat → Bytes → Bytes
  | _, [] => []
  | skip + 1, _ :: rest => expandFrom mapping skip rest
  | 0, byte :: rest =>
    if byte = dollar ∧ rest ≠ [] then
      shellValue mapping (getShellName rest) ++ expandFrom mapping (getShellName rest).2 rest
    else byte :: expandFrom mapping 0 rest

/-- `os.Expand`. -/
def expand (mapping : Bytes → Bytes) (text : Bytes) : Bytes := expandFrom mapping 0 text

section

variable {mapping : Bytes → Bytes}

/-- Every brace that opens behind a dollar sign in the text closes. -/
def Closed (text : Bytes) : Prop :=
  ∀ before after, text = before ++ dollar :: openBrace :: after → closeBrace ∈ after

theorem Closed.tail {byte : UInt8} {text : Bytes} (closed : Closed (byte :: text)) :
    Closed text := fun before after split => closed (byte :: before) after (by rw [split]; rfl)

/-- The shortcut for a special variable in braces gives what the scan to the brace gives. -/
theorem bracedName_special {rest : Bytes}
    (special : (rest.head?.any isShellSpecialVar && rest.tail.head? = some closeBrace) = true) :
    bracedName rest = (rest.take 1, 3) := by
  match rest with
  | [] => cases special
  | [_] => simp at special
  | first :: second :: more =>
    simp only [List.head?_cons, List.tail_cons, Option.any_some, Bool.and_eq_true,
      decide_eq_true_eq, Option.some.injEq] at special
    have ⟨is, brace⟩ := special
    have other : first ≠ closeBrace := by
      intro same
      rw [same] at is
      revert is
      decide
    simp [bracedName, brace, other]

theorem getShellName_cons (first : UInt8) (rest : Bytes) :
    getShellName (first :: rest) =
      if first = openBrace then bracedName rest
      else if isShellSpecialVar first then ([first], 1)
      else ((first :: rest).takeWhile isAlphaNum,
        ((first :: rest).takeWhile isAlphaNum).length) := by
  rw [getShellName]
  by_cases brace : first = openBrace
  · rw [if_pos brace, if_pos brace]
    split
    · rename_i special
      exact (bracedName_special special).symm
    · rfl
  · rw [if_neg brace, if_neg brace]

/-- A byte that is no part of a name and opens none: a space rune has no others. -/
def Quiet (byte : UInt8) : Prop := byte ≤ 0x20 ∨ 0x80 ≤ byte

/-- Whether a byte is such can be evaluated. -/
instance (byte : UInt8) : Decidable (Quiet byte) := inferInstanceAs (Decidable (_ ∨ _))

theorem Quiet.not {byte : UInt8} (quiet : Quiet byte) :
    byte ≠ dollar ∧ byte ≠ openBrace ∧ byte ≠ closeBrace ∧ isShellSpecialVar byte = false ∧
      isAlphaNum byte = false := by
  simp only [Quiet, dollar, openBrace, closeBrace, isShellSpecialVar, isAlphaNum, ne_eq,
    Bool.or_eq_false_iff, Bool.and_eq_false_iff, decide_eq_false_iff_not,
    UInt8.le_iff_toNat_le, ← UInt8.toNat_inj, UInt8.reduceToNat] at quiet ⊢
  omega

theorem Ends.quiet {byte : UInt8} {rest : Bytes} (ends : Ends (byte :: rest)) : Quiet byte := by
  cases ends with
  | inl empty => cases empty
  | inr space =>
    have listed : byte ∈ (byte :: rest).take (spaceWidth (byte :: rest)) := by
      have ⟨width, same⟩ := Nat.exists_eq_add_one_of_ne_zero space
      rw [same, List.take_succ_cons]
      exact List.mem_cons_self
    exact spaceBytes listed

/-- What is taken from a list that stops the taking does not depend on what follows it. -/
theorem takeWhile_stopped {keep : UInt8 → Bool} {left right : Bytes}
    (stops : ∃ byte ∈ left, keep byte = false) :
    (left ++ right).takeWhile keep = left.takeWhile keep ∧
      (left.takeWhile keep).length < left.length := by
  induction left with
  | nil =>
    have ⟨_, listed, _⟩ := stops
    cases listed
  | cons first rest ih =>
    by_cases kept : keep first = true
    · have later : ∃ byte ∈ rest, keep byte = false := by
        have ⟨byte, listed, stop⟩ := stops
        cases List.mem_cons.mp listed with
        | inl same =>
          rw [same, kept] at stop
          cases stop
        | inr inside => exact ⟨byte, inside, stop⟩
      have ⟨same, short⟩ := ih later
      simp [kept, same, short]
    · simp [kept]

/-- What is taken from a list does not depend on what follows it, if that stops the taking. -/
theorem takeWhile_before {keep : UInt8 → Bool} {left right : Bytes}
    (stops : ∀ byte ∈ right.head?, keep byte = false) :
    (left ++ right).takeWhile keep = left.takeWhile keep := by
  induction left with
  | nil =>
    cases right with
    | nil => rfl
    | cons byte rest => simp [stops byte rfl]
  | cons first rest ih => simp [List.takeWhile_cons, ih]

theorem getShellName_append {name rest : Bytes} (nonempty : name ≠ [])
    (closed : ∀ more, name = openBrace :: more → closeBrace ∈ more) (ends : Ends rest) :
    getShellName (name ++ rest) = getShellName name ∧ (getShellName name).2 ≤ name.length := by
  cases name with
  | nil => exact absurd rfl nonempty
  | cons first more =>
    rw [List.cons_append, getShellName_cons, getShellName_cons]
    by_cases brace : first = openBrace
    · have inside := closed more (by rw [brace])
      have ⟨same, short⟩ : (more ++ rest).takeWhile (· ≠ closeBrace) =
          more.takeWhile (· ≠ closeBrace) ∧
          (more.takeWhile (· ≠ closeBrace)).length < more.length :=
        takeWhile_stopped ⟨closeBrace, inside, by decide⟩
      rw [if_pos brace, if_pos brace]
      constructor
      · simp only [bracedName, same, List.mem_append, inside, true_or, if_true]
      · simp only [bracedName, inside, if_true, List.length_cons]
        split
        · show 2 ≤ more.length + 1
          omega
        · show (more.takeWhile (· ≠ closeBrace)).length + 2 ≤ more.length + 1
          omega
    · rw [if_neg brace, if_neg brace]
      by_cases special : isShellSpecialVar first = true
      · rw [if_pos special, if_pos special]
        exact ⟨rfl, by simp⟩
      · have same : (first :: (more ++ rest)).takeWhile isAlphaNum =
            (first :: more).takeWhile isAlphaNum := by
          rw [← List.cons_append]
          apply takeWhile_before
          intro byte head
          cases rest with
          | nil => cases head
          | cons other others =>
            cases head
            exact ends.quiet.not.2.2.2.2
        rw [if_neg special, if_neg special, same]
        exact ⟨rfl, (List.takeWhile_prefix _).length_le⟩

/-- Words are expanded one by one, if every brace in them closes. -/
theorem expandFrom_append {word rest : Bytes} {skip : Nat} (fits : skip ≤ word.length)
    (closed : Closed word) (ends : Ends rest) :
    expandFrom mapping skip (word ++ rest) =
      expandFrom mapping skip word ++ expandFrom mapping 0 rest := by
  induction word generalizing skip with
  | nil =>
    have start : skip = 0 := by simpa using fits
    rw [start]
    rfl
  | cons byte more ih =>
    rw [List.length_cons] at fits
    cases skip with
    | succ skip =>
      rw [List.cons_append, expandFrom, expandFrom, ih (by omega) closed.tail]
    | zero =>
      rw [List.cons_append, expandFrom, expandFrom]
      by_cases sign : byte = dollar
      · by_cases last : more = []
        · -- a dollar sign at the end of a word stays, whatever follows the word
          subst last
          cases rest with
          | nil => simp [expandFrom]
          | cons first others =>
            have ⟨_, brace, _, special, letter⟩ := ends.quiet.not
            have nameless : getShellName (first :: others) = ([], 0) := by
              simp [getShellName_cons, brace, special, letter]
            simp [nameless, sign, shellValue, expandFrom]
        · have ⟨name, short⟩ := getShellName_append last
            (fun after split => closed [] after (by rw [sign, split]; rfl)) ends
          rw [if_pos ⟨sign, List.append_ne_nil_of_left_ne_nil last _⟩, if_pos ⟨sign, last⟩, name,
            ih short closed.tail, List.append_assoc]
      · rw [if_neg (fun both => sign both.1), if_neg (fun both => sign both.1),
          ih (Nat.zero_le _) closed.tail, List.cons_append]

theorem expand_plain {text rest : Bytes} (plain : ∀ byte ∈ text, byte ≠ dollar) :
    expand mapping (text ++ rest) = text ++ expand mapping rest := by
  induction text with
  | nil => rfl
  | cons byte more ih =>
    have sign := plain byte List.mem_cons_self
    have later := ih fun other listed => plain other (List.mem_cons_of_mem _ listed)
    unfold expand at later ⊢
    rw [List.cons_append, expandFrom, if_neg (fun both => sign both.1), later, List.cons_append]

theorem expand_of_plain {text : Bytes} (plain : ∀ byte ∈ text, byte ≠ dollar) :
    expand mapping text = text := by
  have whole := List.append_nil text
  nth_rewrite 1 [← whole]
  rw [expand_plain plain]
  exact whole

theorem closed_of_plain {text : Bytes} (plain : ∀ byte ∈ text, byte ≠ dollar) : Closed text := by
  intro before after split
  have listed : dollar ∈ text := by
    rw [split]
    simp
  exact absurd rfl (plain dollar listed)

theorem expand_space {text : Bytes} :
    expand mapping text =
      text.take (spaceWidth text) ++ expand mapping (text.drop (spaceWidth text)) := by
  have whole := List.take_append_drop (spaceWidth text) text
  nth_rewrite 1 [← whole]
  exact expand_plain fun byte listed => (show Quiet byte from spaceBytes listed).not.1

theorem Ends.expand {rest : Bytes} (ends : Ends rest) : Ends (expand mapping rest) := by
  cases ends with
  | inl empty =>
    subst empty
    exact .inl rfl
  | inr space =>
    apply Or.inr
    rw [expand_space, spaceWidth_take_append space]
    exact space

/-- The fields of an expanded text are those of its expanded words, if every brace in a word
closes. -/
theorem fields_expand {text : Bytes} (closed : ∀ word ∈ fields text, Closed word) :
    fields (expand mapping text) =
      (fields text).flatMap fun word => fields (expand mapping word) := by
  induction text using text_induction with
  | nil => rfl
  | space text space ih =>
    have width : spaceWidth (expand mapping text) = spaceWidth text := by
      rw [expand_space, spaceWidth_take_append space]
    have spaceLeft : spaceWidth (expand mapping text) ≠ 0 := width ▸ space
    have after : (expand mapping text).drop (spaceWidth text) =
        expand mapping (text.drop (spaceWidth text)) := by
      rw [expand_space]
      have taken : (text.take (spaceWidth text)).length = spaceWidth text := by
        rw [List.length_take]
        exact Nat.min_eq_left (spaceWidth_le text)
      nth_rewrite 1 [← taken]
      exact List.drop_left
    rw [fields_space spaceLeft, width, after, ih (fields_space space ▸ closed),
      fields_space space]
  | word word rest is ends ih =>
    rw [fields_word is ends] at closed ⊢
    have wordClosed := closed word List.mem_cons_self
    have restClosed := fun other listed => closed other (List.mem_cons_of_mem _ listed)
    have apart : expand mapping (word ++ rest) = expand mapping word ++ expand mapping rest :=
      expandFrom_append (Nat.zero_le _) wordClosed ends
    rw [apart, fields_append ends.expand, ih restClosed, List.flatMap_cons]

end

end Cosign.Encoding
