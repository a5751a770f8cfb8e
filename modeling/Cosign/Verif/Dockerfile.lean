import Mathlib.Data.List.Forall2
import Mathlib.Data.List.ReduceOption
import Cosign.Cli.Dockerfile
import Cosign.Go.Results

/-!
# Base images of a Dockerfile

The image that is taken from a line is the word of its expansion before the last AS, or the last
word if there is no AS behind the first (`getImageFromLine_eq_ok`). So a stage called `as` hides the
image, and a line without fields panics. If every brace of a line closes in its word, the image is
found whenever it expands to one word and no stage name expands to AS (`Plain.right`).
-/
namespace Cosign.Verif

open Cosign.Go Cosign.Encoding Cosign.Cli

variable {words : List Bytes} {content : Bytes} {text : Bytes}

/-! ## Lines -/

/-- The word FROM in any letter case. -/
def IsFrom (word : Bytes) : Prop := word.map upperByte = fromWord

/-- A flag of the instruction. -/
def IsFlag (word : Bytes) : Prop := ∃ rest, word = 45 :: 45 :: rest

/-- The words of an instruction FROM: flags, an image and perhaps AS with the name of a stage. -/
structure FromLine where
  /-- The word FROM. -/
  keyword : Bytes
  flags : List Bytes
  image : Bytes
  /-- The word AS and the name of the stage. -/
  stage : Option (Bytes × Bytes)
  /-- The keyword is FROM in any letter case. -/
  isFrom : IsFrom keyword
  areFlags : ∀ flag ∈ flags, IsFlag flag
  /-- The word before the stage is AS in any letter case. -/
  isStage : ∀ named ∈ stage, named.1.map upperByte = [65, 83]

namespace FromLine

/-- The word AS and the name of the stage, if there is one. -/
def stageWords (line : FromLine) : List Bytes :=
  line.stage.elim [] fun named => [named.1, named.2]

/-- The words behind the keyword. -/
def arguments (line : FromLine) : List Bytes := line.flags ++ line.image :: line.stageWords

end FromLine

/-- A line of a Dockerfile. -/
inductive LineForm where
  | instruction (line : FromLine)
  /-- Another line. -/
  | other

/-- The text is a line of the form, with any white space around its words. -/
def HasForm (text : Bytes) : LineForm → Prop
  | .instruction line => fields text = line.keyword :: line.arguments
  | .other => ∀ first ∈ (fields text).head?, ¬IsFrom first

section

variable (getenv : Bytes → Bytes)

/-- The image of a line after expansion; scratch is none. -/
def expected : LineForm → Option Bytes
  | .instruction line =>
    if expand getenv line.image = scratch then none else some (expand getenv line.image)
  | .other => none

/-- The image is the word before the last AS, or the last word if there is no AS behind the first
word. -/
def Extracts (words : List Bytes) (image : Bytes) : Prop :=
  (∃ before keyword after, words = before ++ image :: keyword :: after ∧ isAs keyword = true ∧
    ∀ word ∈ after, isAs word = false) ∨
  (∃ before, words = before ++ [image] ∧ ∀ word ∈ words.tail, isAs word = false)

/-- The line contributes its image, by its fields after expansion. -/
def LineRight (text : Bytes) : LineForm → Prop
  | .instruction line => Extracts (lineFields getenv (trimSpace text)) (expand getenv line.image)
  | .other => hasFromPrefix (trimSpace text) = false ∨
    Extracts (lineFields getenv (trimSpace text)) scratch

/-- The fields of some words after their expansion. -/
def expandedFields (words : List Bytes) : List Bytes :=
  words.flatMap fun word => fields (expand getenv word)

/-- A line FROM on which the variables do no harm: every brace closes in its word, the image
expands to one word, and AS is only where it belongs. -/
structure FromLine.Plain (line : FromLine) : Prop where
  /-- Every brace closes in its word. -/
  closed : ∀ word ∈ line.arguments, Closed word
  /-- The image expands to one word. -/
  single : fields (expand getenv line.image) = [expand getenv line.image]
  /-- The name of the stage does not expand to AS. -/
  staged : ∀ named ∈ line.stage, ∀ word ∈ fields (expand getenv named.2), isAs word = false
  /-- Without a stage no flag expands to AS. -/
  unstaged : line.stage = none → ∀ word ∈ expandedFields getenv line.flags, isAs word = false
  /-- Without a stage the image is not AS, unless it is the only word behind FROM. -/
  alone : line.stage = none → isAs (expand getenv line.image) = true →
    line.keyword = fromWord ∧ expandedFields getenv line.flags = []

/-- A line on which the form can be told from its first word. -/
def LineForm.Plain (text : Bytes) : LineForm → Prop
  | .instruction line => line.Plain getenv
  | .other => ∀ first ∈ (fields text).head?, hasFromPrefix first = false

/-- What a line contributes to the images. -/
def lineImage (text : Bytes) : Call (Option Bytes) :=
  if hasFromPrefix (trimSpace text) then do
    let image ← getImageFromLine getenv (trimSpace text)
    .ok (if image = scratch then none else some image)
  else .ok none

end

variable {getenv : Bytes → Bytes}

/-! ## The image of a line -/

theorem exists_last (found : ∃ word ∈ words, isAs word = true) :
    ∃ before keyword after, words = before ++ keyword :: after ∧ isAs keyword = true ∧
      ∀ word ∈ after, isAs word = false := by
  induction words with
  | nil =>
    have ⟨_, listed, _⟩ := found
    cases listed
  | cons first rest ih =>
    by_cases later : ∃ word ∈ rest, isAs word = true
    · have ⟨before, keyword, after, split, is, last⟩ := ih later
      exact ⟨first :: before, keyword, after, by rw [split, List.cons_append], is, last⟩
    · have others : ∀ word ∈ rest, isAs word = false := fun word listed =>
        Bool.eq_false_iff.mpr fun is => later ⟨word, listed, is⟩
      have ⟨word, listed, is⟩ := found
      cases List.mem_cons.mp listed with
      | inl same => exact ⟨[], first, rest, rfl, same ▸ is, others⟩
      | inr inside => exact absurd ⟨word, inside, is⟩ later

theorem exists_extracts (nonempty : words ≠ []) :
    ∃ image, Extracts words image := by
  cases words with
  | nil => exact absurd rfl nonempty
  | cons first rest =>
    by_cases found : ∃ word ∈ rest, isAs word = true
    · have ⟨before, keyword, after, split, is, last⟩ := exists_last found
      have nonempty : first :: before ≠ [] := List.cons_ne_nil _ _
      refine ⟨(first :: before).getLast nonempty, .inl ⟨(first :: before).dropLast, keyword, after,
        ?_, is, last⟩⟩
      rw [split, List.append_cons (first :: before).dropLast, List.dropLast_append_getLast]
      rfl
    · refine ⟨(first :: rest).getLast nonempty, .inr ⟨(first :: rest).dropLast,
        (List.dropLast_append_getLast nonempty).symm, ?_⟩⟩
      intro word listed
      exact Bool.eq_false_iff.mpr fun is => found ⟨word, listed, is⟩

theorem cutAs_found {before after : List Bytes} {image keyword : Bytes}
    (is : isAs keyword = true) (last : ∀ word ∈ after, isAs word = false) (behind : Nat)
    (inside : behind ≤ after.length) :
    cutAs (before ++ image :: keyword :: after) (before.length + 1 + behind) =
      before ++ [image] := by
  induction behind with
  | zero =>
    have here : ((before ++ image :: keyword :: after)[before.length + 1]?).any isAs = true := by
      simp [is]
    rw [Nat.add_zero, cutAs, if_pos here, List.take_length_add_append]
    rfl
  | succ behind ih =>
    have other : ((before ++ image :: keyword :: after)[before.length + 1 + behind + 1]?).any isAs
        = false := by
      have listed := last after[behind] (List.getElem_mem (by omega))
      have place : before.length + 1 + behind + 1 - before.length = behind + 2 := by omega
      rw [List.getElem?_append_right (by omega), place, List.getElem?_cons_succ,
        List.getElem?_cons_succ, List.getElem?_eq_getElem (by omega)]
      exact listed
    rw [← Nat.add_assoc, cutAs, if_neg (by rw [other]; decide)]
    exact ih (by omega)

theorem cutAs_none (others : ∀ word ∈ words.tail, isAs word = false)
    (i : Nat) : cutAs words i = words := by
  induction i with
  | zero => rfl
  | succ i ih =>
    have other : (words[i + 1]?).any isAs = false := by
      cases words with
      | nil => rfl
      | cons first rest =>
        rw [List.getElem?_cons_succ]
        cases found : rest[i]? with
        | none => rfl
        | some word => exact others word (List.mem_of_getElem? found)
    rw [cutAs, if_neg (by rw [other]; decide)]
    exact ih

theorem getLast_cutAs {image : Bytes} (extracts : Extracts words image) :
    (cutAs words (words.length - 1)).getLast? = some image := by
  cases extracts with
  | inl found =>
    have ⟨before, keyword, after, split, is, last⟩ := found
    have size : words.length - 1 = before.length + 1 + after.length := by
      rw [split]
      simp only [List.length_append, List.length_cons]
      omega
    rw [size, split, cutAs_found is last after.length (Nat.le_refl _)]
    simp
  | inr whole =>
    have ⟨before, split, alone⟩ := whole
    rw [cutAs_none alone, split]
    simp

theorem getImageFromLine_eq_ok {line image : Bytes} :
    getImageFromLine getenv line = .ok image ↔ Extracts (lineFields getenv line) image := by
  unfold getImageFromLine
  constructor
  · intro taken
    by_cases empty : lineFields getenv line = []
    · rw [empty] at taken
      cases taken
    · have ⟨other, extracts⟩ := exists_extracts empty
      dsimp only at taken
      rw [getLast_cutAs extracts] at taken
      cases taken
      exact extracts
  · intro extracts
    dsimp only
    rw [getLast_cutAs extracts]

theorem returns_getImageFromLine {line : Bytes} :
    Returns (getImageFromLine getenv line) ↔ lineFields getenv line ≠ [] := by
  constructor
  · intro ⟨image, taken⟩ empty
    unfold getImageFromLine at taken
    rw [empty] at taken
    cases taken
  · intro nonempty
    have ⟨image, extracts⟩ := exists_extracts nonempty
    exact ⟨image, getImageFromLine_eq_ok.mpr extracts⟩

/-! ## The lines of a file -/

theorem scanLine_eq (images : List Bytes) (text : Bytes) :
    scanLine getenv images text =
      (lineImage getenv text).map fun image => images ++ image.toList := by
  unfold scanLine lineImage
  dsimp only
  split
  · cases getImageFromLine getenv (trimSpace text) with
    | error panic => rfl
    | ok image =>
      by_cases same : image = scratch
      · simp [bind, Except.bind, Except.map, same]
      · simp [bind, Except.bind, Except.map, same]
  · simp [Except.map]

theorem foldlM_scanLine (lines : List Bytes) (images : List Bytes) :
    lines.foldlM (scanLine getenv) images =
      (lines.mapM (lineImage getenv)).map fun found => images ++ found.reduceOption := by
  induction lines generalizing images with
  | nil => simp [pure, Except.pure, Except.map]
  | cons first rest ih =>
    rw [List.foldlM_cons, List.mapM_cons, scanLine_eq]
    cases lineImage getenv first with
    | error panic => rfl
    | ok image =>
      show rest.foldlM (scanLine getenv) (images ++ image.toList) = _
      rw [ih]
      cases rest.mapM (lineImage getenv) with
      | error panic => rfl
      | ok found =>
        cases image <;>
          simp [bind, Except.bind, Except.map, pure, Except.pure]

theorem getImagesFromDockerfile_eq_ok {result : Except GoError (List Bytes)} :
    getImagesFromDockerfile getenv content = .ok result ↔
      ∃ found, (scannedLines content).mapM (lineImage getenv) = .ok found ∧
        result = (scanErr content).elim (.ok found.reduceOption) .error := by
  unfold getImagesFromDockerfile
  rw [foldlM_scanLine]
  cases (scannedLines content).mapM (lineImage getenv) with
  | error panic => simp [Except.map, bind, Except.bind]
  | ok found =>
    cases scanErr content with
    | none => simp [Except.map, bind, Except.bind, eq_comm]
    | some err => simp [Except.map, bind, Except.bind, eq_comm]

/-- A line does not panic exactly if it is no line FROM or has fields left. -/
theorem returns_lineImage :
    Returns (lineImage getenv text) ↔
      (hasFromPrefix (trimSpace text) = true → lineFields getenv (trimSpace text) ≠ []) := by
  unfold lineImage
  split
  · rename_i starts
    rw [returns_bind]
    constructor
    · intro ⟨image, taken, _⟩ _
      exact returns_getImageFromLine.mp ⟨image, taken⟩
    · intro left
      have ⟨image, taken⟩ := returns_getImageFromLine.mpr (left starts)
      exact ⟨image, taken, returns_ok _⟩
  · rename_i other
    exact ⟨fun _ starts => absurd starts other, fun _ => returns_ok _⟩

theorem returns_getImagesFromDockerfile :
    Returns (getImagesFromDockerfile getenv content) ↔
      ∀ text ∈ scannedLines content, Returns (lineImage getenv text) := by
  constructor
  · intro ⟨result, ran⟩
    have ⟨found, all, _⟩ := getImagesFromDockerfile_eq_ok.mp ran
    exact exists_mapM_eq_ok.mp ⟨found, all⟩
  · intro all
    have ⟨found, ran⟩ := exists_mapM_eq_ok.mpr all
    exact ⟨_, getImagesFromDockerfile_eq_ok.mpr ⟨found, ran, rfl⟩⟩

/-! ## Lines of the form -/

theorem not_quiet_of_upper {byte : UInt8} (letter : upperByte byte ∈ fromWord) : ¬Quiet byte := by
  intro quiet
  have same : upperByte byte = byte := by
    unfold upperByte
    rw [if_neg]
    simp only [Quiet, Bool.and_eq_true, decide_eq_true_eq, UInt8.le_iff_toNat_le,
      UInt8.reduceToNat] at quiet ⊢
    omega
  rw [same] at letter
  simp only [fromWord, List.mem_cons, List.not_mem_nil, or_false] at letter
  rcases letter with is | is | is | is <;> rw [is] at quiet <;> revert quiet <;> decide

section Keyword

variable {keyword : Bytes} (isFrom : IsFrom keyword)
include isFrom

theorem length_keyword : keyword.length = 4 := by
  have size := congrArg List.length isFrom
  rw [List.length_map] at size
  exact size

/-- The first four bytes of a line that starts with the word FROM. -/
theorem take_keyword (rest : Bytes) : (keyword ++ rest).take 4 = keyword := by
  rw [← length_keyword isFrom, List.take_left]

theorem hasFromPrefix_keyword (rest : Bytes) : hasFromPrefix (keyword ++ rest) = true := by
  unfold hasFromPrefix
  rw [take_keyword isFrom]
  exact decide_eq_true isFrom

theorem plain_keyword : ∀ byte ∈ keyword, byte ≠ dollar := by
  intro byte listed same
  have letter : upperByte byte ∈ fromWord := isFrom ▸ List.mem_map_of_mem listed
  rw [same] at letter
  revert letter
  decide

end Keyword

theorem hasFromPrefix_from {line : FromLine} (form : HasForm text (.instruction line)) :
    hasFromPrefix (trimSpace text) = true := by
  have ⟨rest, split, _, _⟩ := trimSpace_eq_word form
  rw [split]
  exact hasFromPrefix_keyword line.isFrom rest

/-- The field that is left of the keyword: in capitals it is cut off. -/
def FromLine.keywordFields (line : FromLine) : List Bytes :=
  if line.keyword = fromWord then [] else [line.keyword]

theorem lineFields_from {line : FromLine} (form : HasForm text (.instruction line))
    (closed : ∀ word ∈ line.arguments, Closed word) :
    lineFields getenv (trimSpace text) =
      line.keywordFields ++ expandedFields getenv line.arguments := by
  have ⟨rest, split, ends, others⟩ := trimSpace_eq_word form
  rw [split]
  have listed : line.keyword ∈ fields text := by
    rw [form]
    exact List.mem_cons_self
  have isWord := isWord_of_mem_fields listed
  have restClosed : ∀ word ∈ fields rest, Closed word := others ▸ closed
  unfold lineFields trimFrom FromLine.keywordFields
  rw [take_keyword line.isFrom]
  by_cases capitals : line.keyword = fromWord
  · rw [if_pos capitals, if_pos capitals, ← length_keyword line.isFrom, List.drop_left,
      fields_expand restClosed, others]
    rfl
  · have plain := plain_keyword line.isFrom
    have allClosed : ∀ word ∈ fields (line.keyword ++ rest), Closed word := by
      rw [fields_word isWord ends]
      intro word listed
      cases List.mem_cons.mp listed with
      | inl same => exact same ▸ closed_of_plain plain
      | inr later => exact restClosed word later
    rw [if_neg capitals, if_neg capitals, fields_expand allClosed, fields_word isWord ends,
      List.flatMap_cons, expand_of_plain plain, isWord.fields, others]
    rfl

/-- A line whose first word does not start with FROM is not read. -/
theorem hasFromPrefix_other (other : ∀ first ∈ (fields text).head?, hasFromPrefix first = false) :
    hasFromPrefix (trimSpace text) = false := by
  cases words : fields text with
  | nil =>
    rw [trimSpace_eq_nil words]
    rfl
  | cons first others =>
    have ⟨rest, split, ends, _⟩ := trimSpace_eq_word words
    rw [words] at other
    have own := other first rfl
    rw [split]
    -- a letter of FROM cannot be in what ends the first word, so the word has all four
    by_cases long : 4 ≤ first.length
    · unfold hasFromPrefix at own ⊢
      rw [List.take_append_of_le_length long]
      exact own
    · apply Bool.eq_false_iff.mpr
      intro starts
      have letters : ((first ++ rest).take 4).map upperByte = fromWord := of_decide_eq_true starts
      cases rest with
      | nil =>
        have size := congrArg List.length letters
        simp only [List.append_nil, List.length_map, List.length_take, fromWord,
          List.length_cons, List.length_nil] at size
        omega
      | cons byte more =>
        apply not_quiet_of_upper _ ends.quiet
        rw [← letters]
        apply List.mem_map_of_mem
        have place : 4 = first.length + (4 - first.length) := by omega
        rw [place, List.take_length_add_append]
        have ⟨few, same⟩ : ∃ few, 4 - first.length = few + 1 := ⟨3 - first.length, by omega⟩
        rw [same, List.take_succ_cons]
        simp

/-! ## Right lines -/

theorem isAs_keyword {keyword : Bytes} (isFrom : IsFrom keyword) : isAs keyword = false := by
  have size := length_keyword isFrom
  match keyword with
  | [_, _, _, _] => rfl

theorem stage_keyword {keyword : Bytes} (is : keyword.map upperByte = [65, 83])
    (isWord : IsWord keyword) :
    isAs keyword = true ∧ fields (expand getenv keyword) = [keyword] := by
  have plain : ∀ byte ∈ keyword, byte ≠ dollar := by
    intro byte listed same
    have letter : upperByte byte ∈ [65, 83] := is ▸ List.mem_map_of_mem listed
    rw [same] at letter
    revert letter
    decide
  constructor
  · have size := congrArg List.length is
    rw [List.length_map] at size
    match keyword with
    | [first, second] =>
      simp only [List.map_cons, List.map_nil, List.cons.injEq, and_true] at is
      simp [isAs, is]
  · rw [expand_of_plain plain, isWord.fields]

/-- The last word is taken if no word is AS, or it is the only one. -/
theorem extracts_last {before : List Bytes} {image : Bytes}
    (others : ∀ word ∈ before, isAs word = false)
    (behind : before ≠ [] → isAs image = false) : Extracts (before ++ [image]) image := by
  refine .inr ⟨before, rfl, fun word listed => ?_⟩
  cases before with
  | nil => cases listed
  | cons first rest =>
    cases List.mem_append.mp listed with
    | inl inside => exact others word (List.mem_cons_of_mem _ inside)
    | inr last =>
      rw [List.mem_singleton.mp last]
      exact behind (List.cons_ne_nil first rest)

namespace FromLine

variable {line : FromLine}

theorem isAs_keywordFields {word : Bytes} (listed : word ∈ line.keywordFields) :
    isAs word = false := by
  unfold keywordFields at listed
  split at listed
  · cases listed
  · rw [List.mem_singleton.mp listed]
    exact isAs_keyword line.isFrom

/-- The image is one field between those of the flags and those of the stage. -/
theorem expandedFields_arguments
    (single : fields (expand getenv line.image) = [expand getenv line.image]) :
    expandedFields getenv line.arguments = expandedFields getenv line.flags ++
      expand getenv line.image :: expandedFields getenv line.stageWords := by
  unfold expandedFields arguments
  rw [List.flatMap_append, List.flatMap_cons, single]
  rfl

theorem expandedFields_stageWords (form : HasForm text (.instruction line)) {named : Bytes × Bytes}
    (stage : line.stage = some named) :
    isAs named.1 = true ∧
      expandedFields getenv line.stageWords = named.1 :: fields (expand getenv named.2) := by
  have listed : named.1 ∈ fields text := by
    rw [form]
    simp [arguments, stageWords, stage]
  have ⟨is, stays⟩ : isAs named.1 = true ∧ fields (expand getenv named.1) = [named.1] :=
    stage_keyword (line.isStage named stage) (isWord_of_mem_fields listed)
  refine ⟨is, ?_⟩
  simp [expandedFields, stageWords, stage, stays]

/-- On a plain line FROM without a stage the last word is the image. -/
theorem Plain.extracts_unstaged (plain : line.Plain getenv) (stage : line.stage = none) :
    Extracts (line.keywordFields ++ expandedFields getenv line.flags ++ [expand getenv line.image])
      (expand getenv line.image) := by
  apply extracts_last
  · intro word listed
    cases List.mem_append.mp listed with
    | inl keyword => exact isAs_keywordFields keyword
    | inr flag => exact plain.unstaged stage word flag
  · intro more
    apply Bool.eq_false_iff.mpr
    intro is
    have ⟨capitals, flagless⟩ := plain.alone stage is
    have noKeyword : line.keywordFields = [] := if_pos capitals
    exact more (by rw [noKeyword, flagless, List.append_nil])

theorem Plain.right (form : HasForm text (.instruction line))
    (plain : line.Plain getenv) : LineRight getenv text (.instruction line) := by
  show Extracts (lineFields getenv (trimSpace text)) (expand getenv line.image)
  rw [lineFields_from form plain.closed, expandedFields_arguments plain.single,
    ← List.append_assoc]
  cases stage : line.stage with
  | some named =>
    have ⟨is, stageIs⟩ : isAs named.1 = true ∧ expandedFields getenv line.stageWords =
      named.1 :: fields (expand getenv named.2) := expandedFields_stageWords form stage
    rw [stageIs]
    exact .inl ⟨_, named.1, _, rfl, is, plain.staged named stage⟩
  | none =>
    have last : expandedFields getenv line.stageWords = [] := by
      simp [expandedFields, stageWords, stage]
    rw [last]
    exact plain.extracts_unstaged stage

end FromLine

theorem LineForm.Plain.right {form : LineForm} (has : HasForm text form)
    (plain : form.Plain getenv text) : LineRight getenv text form := by
  cases form with
  | instruction line => exact FromLine.Plain.right has plain
  | other => exact .inl (hasFromPrefix_other plain)

/-- A line contributes the image of its form exactly if it is right. -/
theorem lineImage_eq_iff {form : LineForm} (has : HasForm text form) :
    lineImage getenv text = .ok (expected getenv form) ↔ LineRight getenv text form := by
  unfold lineImage
  cases form with
  | instruction line =>
    rw [if_pos (hasFromPrefix_from has), bind_eq_ok]
    constructor
    · intro ⟨image, taken, same⟩
      -- the two images are both scratch or the same image
      have equal : image = expand getenv line.image := by
        have both := Except.ok.inj same
        unfold expected at both
        split at both <;> split at both <;> grind
      rw [equal] at taken
      exact getImageFromLine_eq_ok.mp taken
    · intro right
      exact ⟨_, getImageFromLine_eq_ok.mpr right, rfl⟩
  | other =>
    cases starts : hasFromPrefix (trimSpace text) with
    | false => simp [expected, LineRight, starts]
    | true =>
      rw [if_pos rfl, bind_eq_ok]
      constructor
      · intro ⟨image, taken, same⟩
        have equal : image = scratch := by
          have both := Except.ok.inj same
          unfold expected at both
          split at both
          · assumption
          · cases both
        exact .inr (equal ▸ getImageFromLine_eq_ok.mp taken)
      · intro right
        cases right with
        | inl unread => rw [starts] at unread; cases unread
        | inr extracts => exact ⟨scratch, getImageFromLine_eq_ok.mpr extracts, rfl⟩

/-- A file of right lines gives the images of its lines in order. -/
theorem images_of_right {forms : List LineForm} (short : scanErr content = none)
    (lines : List.Forall₂ (fun text form => HasForm text form ∧ LineRight getenv text form)
      (scannedLines content) forms) :
    getImagesFromDockerfile getenv content = .ok (.ok (forms.filterMap (expected getenv))) := by
  apply getImagesFromDockerfile_eq_ok.mpr
  refine ⟨forms.map (expected getenv), ?_, ?_⟩
  · apply mapM_eq_ok.mpr
    rw [List.forall₂_map_right_iff]
    exact lines.imp fun text form both => (lineImage_eq_iff both.1).mpr both.2
  · have collected : (forms.map (expected getenv)).reduceOption =
        forms.filterMap (expected getenv) := List.filterMap_map
    rw [short, collected]
    rfl

/-- The images of a file are those that its lines contribute, in order. -/
theorem images_eq_ok {images : List Bytes} :
    getImagesFromDockerfile getenv content = .ok (.ok images) ↔
      scanErr content = none ∧ ∃ found,
        List.Forall₂ (fun text image => lineImage getenv text = .ok image) (scannedLines content)
          found ∧ images = found.reduceOption := by
  rw [getImagesFromDockerfile_eq_ok]
  simp only [mapM_eq_ok]
  cases scanErr content with
  | none => simp
  | some err => simp

/-- **Base images.** The call returns without a panic if and only if every line that starts with
FROM has a word left when FROM is cut off and the variables are expanded, and returns images if and
only if no line has 64 KiB or more: then those that its lines contribute, in order. A line
contributes the image of its form, expanded and without scratch, if and only if it is right. So a
file of right lines gives the images of its lines; that of one line gives them only then, while the
wrong lines of a longer file can make up for each other. A line is right if every brace closes in
its word, the image expands to one word, and neither a stage name nor, without a stage, a flag or an
image behind another word expands to AS. -/
theorem dockerfile_images_iff (getenv : Bytes → Bytes) (content : Bytes) :
    (Returns (getImagesFromDockerfile getenv content) ↔
      ∀ text ∈ scannedLines content, hasFromPrefix (trimSpace text) = true →
        lineFields getenv (trimSpace text) ≠ []) ∧
    (∀ images, getImagesFromDockerfile getenv content = .ok (.ok images) ↔
      scanErr content = none ∧ ∃ found,
        List.Forall₂ (fun text image => lineImage getenv text = .ok image) (scannedLines content)
          found ∧ images = found.reduceOption) ∧
    (∀ text ∈ scannedLines content, ∀ form, HasForm text form →
      (lineImage getenv text = .ok (expected getenv form) ↔ LineRight getenv text form)) ∧
    (∀ forms, scanErr content = none →
      List.Forall₂ (fun text form => HasForm text form ∧ LineRight getenv text form)
        (scannedLines content) forms →
      getImagesFromDockerfile getenv content = .ok (.ok (forms.filterMap (expected getenv)))) ∧
    (∀ text form, scanErr content = none → scannedLines content = [text] → HasForm text form →
      (getImagesFromDockerfile getenv content = .ok (.ok (expected getenv form).toList) ↔
        LineRight getenv text form)) ∧
    (∀ text form, HasForm text form → form.Plain getenv text → LineRight getenv text form) := by
  refine ⟨?_, fun images => images_eq_ok, fun text _ form => lineImage_eq_iff,
    fun forms => images_of_right, ?_, fun text form => LineForm.Plain.right⟩
  · simp only [returns_getImagesFromDockerfile, returns_lineImage]
  · intro text form short only has
    rw [images_eq_ok, only, ← lineImage_eq_iff has]
    constructor
    · intro ⟨_, found, contributed, same⟩
      cases contributed with
      | cons first rest =>
        cases rest
        rename_i image
        have equal : expected getenv form = image := by
          cases image <;> cases expectedImage : expected getenv form <;>
            simp_all
        rw [equal]
        exact first
    · intro contributes
      refine ⟨short, [expected getenv form], .cons contributes .nil, ?_⟩
      cases expected getenv form <;> rfl

-- the first line gives an image too many, the second one too few, and the file is right
example :
    let getenv : Bytes → Bytes := fun _ => utf8Bytes "build FROM scratch AS last"
    lineImage getenv (utf8Bytes "FROMAGE brie") = .ok (some (utf8Bytes "brie")) ∧
    lineImage getenv (utf8Bytes "FROM brie AS $STAGE") = .ok none ∧
    getImagesFromDockerfile getenv (utf8Bytes "FROMAGE brie\nFROM brie AS $STAGE\n") =
      .ok (.ok [utf8Bytes "brie"]) := by
  decide +kernel

/-- Environments without a variable: the bare word FROM panics; a stage called `as` hides the
image; and a word that only starts with FROM is taken for it. -/
theorem dockerfile_images_wrong :
    getImagesFromDockerfile (fun _ => []) (utf8Bytes "FROM\n") = .error .indexOutOfRange ∧
    getImagesFromDockerfile (fun _ => []) (utf8Bytes "FROM alpine AS as\n") =
      .ok (.ok [utf8Bytes "AS"]) ∧
    getImagesFromDockerfile (fun _ => []) (utf8Bytes "FROMAGE brie\n") =
      .ok (.ok [utf8Bytes "brie"]) := by
  decide +kernel

end Cosign.Verif
