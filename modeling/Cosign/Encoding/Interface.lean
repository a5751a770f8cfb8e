import Cosign.Encoding.Struct

/-!
# Values of interface type

An `interface{}` that is filled from JSON holds maps, slices and `float64`s, and `json.Marshal`
writes it from these: the last of members with one name, sorted, with reformatted numbers. What is
held and what is written fit an `interface{}` (`fits_interfaceJson`), and what is written is written
as itself (`interfaceJson_idem`). The types carry that their content fits.
-/
namespace Cosign.Encoding

open Cosign.Go

variable {members : List (String × Json)}

/-- Of the members with one name, the last. -/
def lastMembers : List (String × Json) → List (String × Json)
  | [] => []
  | first :: rest =>
    if rest.any fun other => other.1 == first.1 then lastMembers rest
    else first :: lastMembers rest

/-- The members of a map as `json.Marshal` writes them. -/
def mapMembers (members : List (String × Json)) : List (String × Json) :=
  (lastMembers members).insertionSort fun left right => left.1 ≤ right.1

mutual

/-- The tree that `json.Marshal` writes for an `interface{}` that was filled from a tree. -/
def interfaceJson (format : String → String) : Json → Json
  | .num literal => .num (format literal)
  | .arr elements => .arr (interfaceElements format elements)
  | .obj members => .obj (mapMembers (interfaceMembers format members))
  | .null => .null
  | .bool truth => .bool truth
  | .str text => .str text

/-- The elements of a slice, written. -/
def interfaceElements (format : String → String) : List Json → List Json
  | [] => []
  | first :: rest => interfaceJson format first :: interfaceElements format rest

/-- The members of a map, written. -/
def interfaceMembers (format : String → String) : List (String × Json) → List (String × Json)
  | [] => []
  | (name, first) :: rest => (name, interfaceJson format first) :: interfaceMembers format rest

end

theorem membersFit_iff :
    membersFit members = true ↔ ∀ entry ∈ members, fitsInterface entry.2 = true := by
  induction members with
  | nil => simp [membersFit]
  | cons first rest ih => rw [membersFit, Bool.and_eq_true, ih, List.forall_mem_cons]

theorem mem_of_mem_lastMembers {entry : String × Json}
    (found : entry ∈ lastMembers members) : entry ∈ members := by
  induction members with
  | nil => exact found
  | cons first rest ih =>
    unfold lastMembers at found
    split at found
    · exact List.mem_cons_of_mem _ (ih found)
    · cases List.mem_cons.mp found with
      | inl same => exact same ▸ List.mem_cons_self
      | inr later => exact List.mem_cons_of_mem _ (ih later)

theorem mapMembers_fit (fit : membersFit members = true) :
    membersFit (mapMembers members) = true := by
  apply membersFit_iff.mpr
  intro entry found
  have kept := (List.perm_insertionSort _ _).mem_iff.mp found
  exact membersFit_iff.mp fit entry (mem_of_mem_lastMembers kept)

theorem lastMembers_nodup (members : List (String × Json)) :
    ((lastMembers members).map Prod.fst).Nodup := by
  induction members with
  | nil => exact List.nodup_nil
  | cons first rest ih =>
    unfold lastMembers
    split
    · exact ih
    · rename_i last
      rw [List.map_cons, List.nodup_cons]
      refine ⟨fun found => last ?_, ih⟩
      obtain ⟨entry, kept, same⟩ := List.mem_map.mp found
      exact List.any_eq_true.mpr ⟨entry, mem_of_mem_lastMembers kept, beq_iff_eq.mpr same⟩

theorem lastMembers_of_nodup
    (distinct : (members.map Prod.fst).Nodup) : lastMembers members = members := by
  induction members with
  | nil => rfl
  | cons first rest ih =>
    rw [List.map_cons, List.nodup_cons] at distinct
    unfold lastMembers
    rw [if_neg, ih distinct.2]
    intro later
    obtain ⟨entry, listed, same⟩ := List.any_eq_true.mp later
    exact distinct.1 (List.mem_map.mpr ⟨entry, listed, beq_iff_eq.mp same⟩)

theorem mapMembers_ascend (members : List (String × Json)) :
    (mapMembers members).Pairwise fun left right => left.1 < right.1 := by
  have sorted : (mapMembers members).Pairwise fun left right => left.1 ≤ right.1 :=
    List.pairwise_insertionSort _ _
  have same : (mapMembers members).Perm (lastMembers members) := List.perm_insertionSort _ _
  have distinct : (mapMembers members).Pairwise fun left right => left.1 ≠ right.1 := by
    have names := (same.map Prod.fst).nodup_iff.mpr (lastMembers_nodup members)
    rwa [List.Nodup, List.pairwise_map] at names
  exact (sorted.and distinct).imp fun both => lt_of_le_of_ne both.1 both.2

theorem mapMembers_of_ascend (ascend : members.Pairwise fun left right => left.1 < right.1) :
    mapMembers members = members := by
  have distinct : (members.map Prod.fst).Nodup := by
    rw [List.Nodup, List.pairwise_map]
    exact ascend.imp fun less => ne_of_lt less
  unfold mapMembers
  rw [lastMembers_of_nodup distinct]
  exact Json.insertionSort_eq (List.Perm.refl _) ascend

/-- The members of a map that is written are those that are written. -/
theorem mapMembers_idem (members : List (String × Json)) :
    mapMembers (mapMembers members) = mapMembers members :=
  mapMembers_of_ascend (mapMembers_ascend members)

theorem interfaceMembers_eq (format : String → String) (members : List (String × Json)) :
    interfaceMembers format members =
      members.map fun entry => (entry.1, interfaceJson format entry.2) := by
  induction members with
  | nil => rfl
  | cons first rest ih => rw [interfaceMembers, ih, List.map_cons]

/-- How a `float64` is formatted: a literal that is in range stays in range, and the text of a
value is formatted to itself. -/
structure FloatFormat where
  /-- The text that the value of a literal is written as. -/
  format : String → String
  /-- It is in range. -/
  finite : ∀ literal, floatOverflows literal = false → floatOverflows (format literal) = false
  /-- It is written as itself. -/
  idem : ∀ literal, format (format literal) = format literal

/-- What is written for members that are each written as themselves is written as itself. -/
theorem interfaceMembers_map (format : String → String)
    (each : ∀ entry ∈ members, interfaceJson format entry.2 = entry.2) :
    interfaceMembers format (mapMembers members) = mapMembers members := by
  rw [interfaceMembers_eq]
  refine (List.map_congr_left fun entry found => ?_).trans (List.map_id _)
  have kept := (List.perm_insertionSort _ _).mem_iff.mp found
  exact Prod.ext rfl (each entry (mem_of_mem_lastMembers kept))

mutual

theorem interfaceJson_idem (float : FloatFormat) : ∀ tree : Json,
    interfaceJson float.format (interfaceJson float.format tree) = interfaceJson float.format tree
  | .num literal => by rw [interfaceJson, interfaceJson, float.idem]
  | .arr elements => by
    rw [interfaceJson, interfaceJson, interfaceElements_idem float elements]
  | .obj members => by
    rw [interfaceJson, interfaceJson, interfaceMembers_map, mapMembers_idem]
    exact interfaceMembers_idem float members
  | .null => rfl
  | .bool _ => rfl
  | .str _ => rfl

theorem interfaceElements_idem (float : FloatFormat) : ∀ elements : List Json,
    interfaceElements float.format (interfaceElements float.format elements) =
      interfaceElements float.format elements
  | [] => rfl
  | first :: rest => by
    rw [interfaceElements, interfaceElements, interfaceJson_idem float first,
      interfaceElements_idem float rest]

theorem interfaceMembers_idem (float : FloatFormat) : ∀ members : List (String × Json),
    ∀ entry ∈ interfaceMembers float.format members,
      interfaceJson float.format entry.2 = entry.2
  | [], _, found => absurd found List.not_mem_nil
  | (name, first) :: rest, entry, found => by
    rw [interfaceMembers] at found
    cases List.mem_cons.mp found with
    | inl same =>
      rw [same]
      exact interfaceJson_idem float first
    | inr later => exact interfaceMembers_idem float rest entry later

end

mutual

theorem fits_interfaceJson (float : FloatFormat) : ∀ tree : Json, fitsInterface tree = true →
    fitsInterface (interfaceJson float.format tree) = true
  | .num literal, fits => by
    rw [fitsInterface, Bool.not_eq_true'] at fits
    rw [interfaceJson, fitsInterface, float.finite literal fits]
    rfl
  | .arr elements, fits => elementsFit_interface float elements fits
  | .obj members, fits => mapMembers_fit (membersFit_interface float members fits)
  | .null, _ => rfl
  | .bool _, _ => rfl
  | .str _, _ => rfl

theorem elementsFit_interface (float : FloatFormat) : ∀ elements : List Json,
    elementsFit elements = true → elementsFit (interfaceElements float.format elements) = true
  | [], _ => rfl
  | first :: rest, fit => by
    rw [elementsFit, Bool.and_eq_true] at fit
    rw [interfaceElements, elementsFit, fits_interfaceJson float first fit.1,
      elementsFit_interface float rest fit.2]
    rfl

theorem membersFit_interface (float : FloatFormat) : ∀ members : List (String × Json),
    membersFit members = true → membersFit (interfaceMembers float.format members) = true
  | [], _ => rfl
  | (name, first) :: rest, fit => by
    rw [membersFit, Bool.and_eq_true] at fit
    rw [interfaceMembers, membersFit, fits_interfaceJson float first fit.1,
      membersFit_interface float rest fit.2]
    rfl

end

/-- An `interface{}` that was filled from JSON. -/
structure AnyValue where
  /-- What it holds. -/
  tree : Json
  /-- Its numbers are in range. -/
  fits : fitsInterface tree = true

namespace AnyValue

/-- A nil interface. -/
def nil : AnyValue := ⟨.null, rfl⟩

/-- Fill an `interface{}`; what it held is replaced. -/
def fill (_held : AnyValue) (value : Json) : Except GoError AnyValue :=
  if fits : fitsInterface value = true then .ok ⟨value, fits⟩ else .error (typeError "float64")

/-- The tree that `json.Marshal` writes. -/
def write (float : FloatFormat) (value : AnyValue) : Json := interfaceJson float.format value.tree

theorem write_fits (float : FloatFormat) (value : AnyValue) :
    fitsInterface (value.write float) = true :=
  fits_interfaceJson float value.tree value.fits

theorem fill_of_fits {held : AnyValue} {value : Json} (fits : fitsInterface value = true) :
    held.fill value = .ok ⟨value, fits⟩ :=
  dif_pos fits

/-- The value that was written, as it is filled again. -/
def again (float : FloatFormat) (value : AnyValue) : AnyValue :=
  ⟨value.write float, value.write_fits float⟩

theorem fill_write (float : FloatFormat) (held value : AnyValue) :
    held.fill (value.write float) = .ok (value.again float) :=
  fill_of_fits (value.write_fits float)

theorem write_again (float : FloatFormat) (value : AnyValue) :
    (value.again float).write float = value.write float :=
  interfaceJson_idem float value.tree

end AnyValue

/-- A `map[string]interface{}` that was filled from JSON; nil is `none`. -/
structure AnyMap where
  /-- Its members; lookups see the last of a name. -/
  members : Option (List (String × Json))
  /-- Their numbers are in range. -/
  fits : membersFit (members.getD []) = true

namespace AnyMap

/-- A nil map. -/
def nil : AnyMap := ⟨none, rfl⟩

theorem append_fits (held : AnyMap) (fits : membersFit members = true) :
    membersFit (held.members.getD [] ++ members) = true := by
  rw [membersFit_iff, List.forall_mem_append]
  exact ⟨membersFit_iff.mp held.fits, membersFit_iff.mp fits⟩

/-- Fill a map over the members that it holds; null makes it nil. -/
def fill (held : AnyMap) : Json → Except GoError AnyMap
  | .null => .ok nil
  | .obj members =>
    if fits : membersFit members = true then
      .ok ⟨some (held.members.getD [] ++ members), held.append_fits fits⟩
    else .error (typeError "float64")
  | _ => .error (typeError "map[string]interface {}")

/-- The tree that `json.Marshal` writes. -/
def write (float : FloatFormat) (value : AnyMap) : Json :=
  match value.members with
  | none => .null
  | some members => .obj (mapMembers (interfaceMembers float.format members))

theorem write_fits (float : FloatFormat) (value : AnyMap) :
    fitsInterface (value.write float) = true := by
  obtain ⟨members, fits⟩ := value
  cases members with
  | none => rfl
  | some members => exact mapMembers_fit (membersFit_interface float members fits)

/-- What is written is filled again into a nil map, and is then written as before. -/
theorem fill_write (float : FloatFormat) (value : AnyMap) :
    ∃ again, AnyMap.nil.fill (value.write float) = .ok again ∧
      again.write float = value.write float := by
  obtain ⟨members, fits⟩ := value
  cases members with
  | none => exact ⟨nil, rfl, rfl⟩
  | some members =>
    have refit := mapMembers_fit (membersFit_interface float members fits)
    refine ⟨_, dif_pos refit, ?_⟩
    show Json.obj (mapMembers (interfaceMembers float.format
      ([] ++ mapMembers (interfaceMembers float.format members)))) = _
    rw [List.nil_append, interfaceMembers_map float.format (interfaceMembers_idem float members),
      mapMembers_idem]
    rfl

end AnyMap

end Cosign.Encoding
