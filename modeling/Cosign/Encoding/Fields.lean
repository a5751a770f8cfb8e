import Cosign.Encoding.Unmarshal

/-!
# What a struct field holds after decoding

A member selects the field whose name agrees with its own up to letter case (`selectField_eq_some`).
After decoding, a string field holds the text of the last such member that is not null
(`fillMembers_string`).
-/
namespace Cosign.Encoding

open Cosign.Go

variable {σ : Type} {fields : List (StructField σ)} {field : StructField σ} {key name : String}

theorem equalFold_iff {other : String} :
    equalFold name other = true ↔ (runes name).map foldChar = (runes other).map foldChar := by
  simp [equalFold]

/-- The names of the fields differ up to letter case. -/
def FoldDistinct (fields : List (StructField σ)) : Prop :=
  fields.Pairwise fun field other => equalFold field.name other.name = false

/-- The selected field is one of the fields and its name agrees with the member. -/
theorem selectField_folds (selected : selectField fields key = some field) :
    field ∈ fields ∧ equalFold field.name key = true := by
  unfold selectField at selected
  split at selected
  · rename_i found exact
    cases selected
    have same : field.name = key := by simpa using List.find?_some exact
    exact ⟨List.mem_of_find?_eq_some exact, same ▸ equalFold_self _⟩
  · exact ⟨List.mem_of_find?_eq_some selected, by simpa using List.find?_some selected⟩

/-- Two fields that agree with the same member are the same field. -/
theorem FoldDistinct.unique {other : StructField σ} (distinct : FoldDistinct fields)
    (member : field ∈ fields) (member' : other ∈ fields)
    (folds : equalFold field.name key = true) (folds' : equalFold other.name key = true) :
    field = other := by
  rw [equalFold_iff] at folds folds'
  apply Classical.byContradiction
  intro different
  have agree : equalFold field.name other.name = true ∧
      equalFold other.name field.name = true := by
    simp [equalFold_iff, folds, folds']
  induction distinct with
  | nil => cases member
  | cons apart _ ih =>
    rcases List.mem_cons.mp member with rfl | inside
    · rcases List.mem_cons.mp member' with rfl | inside'
      · exact different rfl
      · simp [apart other inside'] at agree
    · rcases List.mem_cons.mp member' with rfl | inside'
      · simp [apart field inside] at agree
      · exact ih inside inside'

/-- A member selects exactly the field whose name agrees with it. -/
theorem selectField_eq_some (distinct : FoldDistinct fields) :
    selectField fields key = some field ↔
      field ∈ fields ∧ equalFold field.name key = true := by
  refine ⟨selectField_folds, ?_⟩
  rintro ⟨member, folds⟩
  cases selected : selectField fields key with
  | some other =>
    obtain ⟨member', folds'⟩ := selectField_folds selected
    rw [distinct.unique member' member folds' folds]
  | none =>
    unfold selectField at selected
    split at selected
    · cases selected
    · exact absurd folds (by simpa using List.find?_eq_none.mp selected field member)

theorem selectField_eq_none (unlike : ∀ field ∈ fields, ¬equalFold field.name key = true) :
    selectField fields key = none := by
  apply Option.eq_none_iff_forall_ne_some.mpr
  intro field selected
  obtain ⟨listed, folds⟩ := selectField_folds selected
  exact unlike field listed folds

/-- A member of a field is stored first, and the others after it. -/
theorem fillMembers_cons_ok {value : Json} {rest : List (String × Json)} {filled final : σ}
    (selected : selectField fields key = some field) :
    fillMembers fields filled ((key, value) :: rest) = .ok final ↔
      ∃ next, field.store filled value = .ok next ∧ fillMembers fields next rest = .ok final := by
  rw [fillMembers, selected]
  dsimp only
  cases field.store filled value <;> simp

/-- Members are filled one part after the other. -/
theorem fillMembers_append {filled final : σ} {first rest : List (String × Json)} :
    fillMembers fields filled (first ++ rest) = .ok final ↔
      ∃ next, fillMembers fields filled first = .ok next ∧
        fillMembers fields next rest = .ok final := by
  induction first generalizing filled with
  | nil => simp [fillMembers]
  | cons member others ih =>
    obtain ⟨key, value⟩ := member
    rw [List.cons_append]
    cases selected : selectField fields key with
    | none =>
      rw [fillMembers, selected, fillMembers, selected]
      exact ih
    | some field =>
      simp only [fillMembers_cons_ok selected, ih]
      constructor
      · rintro ⟨between, stored, next, filled, rest⟩
        exact ⟨next, ⟨between, stored, filled⟩, rest⟩
      · rintro ⟨next, ⟨between, stored, filled⟩, rest⟩
        exact ⟨between, stored, next, filled, rest⟩

/-- The text of the last member that agrees with a name and is a string. -/
def lastString (name : String) : List (String × Json) → Option String
  | [] => none
  | (key, value) :: rest =>
    match lastString name rest with
    | some text => some text
    | none =>
      if equalFold name key then
        match value with
        | .str text => some text
        | _ => none
      else none

theorem storeString_frame {β : Type} {get : σ → β} {set : σ → String → σ} {filled next : σ}
    {value : Json} (stored : storeString set filled value = .ok next)
    (frame : ∀ filled text, get (set filled text) = get filled) : get next = get filled := by
  cases value with
  | null => cases stored; rfl
  | str text => cases stored; exact frame filled text
  | bool value => cases stored
  | num literal => cases stored
  | arr elements => cases stored
  | obj members => cases stored

theorem storeSlice_frame {α β : Type} {element : Json → Except GoError α} {get : σ → β}
    {set : σ → List α → σ} {filled next : σ} {value : Json}
    (stored : storeSlice element set filled value = .ok next)
    (frame : ∀ filled values, get (set filled values) = get filled) :
    get next = get filled := by
  unfold storeSlice at stored
  split at stored
  · cases stored
    exact frame filled []
  · split at stored
    · rename_i values _
      cases stored
      exact frame filled values
    · cases stored
  · cases stored

/-- A string field of a struct: where it is stored, and that no other field is stored there. -/
structure StringField (fields : List (StructField σ)) (name : String) (get : σ → String)
    (set : σ → String → σ) : Prop where
  /-- The names of the fields differ up to letter case. -/
  distinct : FoldDistinct fields
  member : ⟨name, storeString set⟩ ∈ fields
  /-- What is stored is what the field holds. -/
  stored : ∀ filled text, get (set filled text) = text
  /-- The other fields are stored elsewhere. -/
  apart : ∀ other ∈ fields, other.name ≠ name → ∀ filled value next,
    other.store filled value = .ok next → get next = get filled

/-- After decoding, a string field holds the text of the last member that agrees with its name
and is not null; without one it is unchanged. -/
theorem fillMembers_string {get : σ → String} {set : σ → String → σ}
    (string : StringField fields name get set) {filled final : σ}
    {members : List (String × Json)} (decoded : fillMembers fields filled members = .ok final) :
    get final = (lastString name members).getD (get filled) := by
  induction members generalizing filled with
  | nil =>
    cases decoded
    rfl
  | cons member rest ih =>
    obtain ⟨key, value⟩ := member
    unfold fillMembers at decoded
    have here : selectField fields key = some ⟨name, storeString set⟩ ↔
        equalFold name key = true := by
      rw [selectField_eq_some string.distinct, and_iff_right string.member]
    unfold lastString
    split at decoded
    · rename_i unselected
      have differs : equalFold name key = false := by
        simpa [unselected] using here
      rw [ih decoded]
      cases lastString name rest <;> simp [differs]
    · rename_i other selected
      split at decoded
      · rename_i next stored
        rw [ih decoded]
        by_cases folds : equalFold name key = true
        · cases selected.symm.trans (here.mpr folds)
          cases value with
          | str text =>
            cases stored
            cases lastString name rest <;> simp [folds, string.stored]
          | null =>
            cases stored
            cases lastString name rest <;> simp [folds]
          | bool value => cases stored
          | num literal => cases stored
          | arr elements => cases stored
          | obj members => cases stored
        · have elsewhere : other.name ≠ name := by
            intro same
            exact folds (same ▸ (selectField_folds selected).2)
          rw [string.apart other (selectField_folds selected).1 elsewhere _ _ _ stored]
          cases lastString name rest <;> simp [folds]
      · cases decoded

end Cosign.Encoding
