import Cosign.Encoding.JsonText
import Mathlib.Data.List.Sort
import Mathlib.Data.String.Basic

/-!
# Structs whose empty fields are left out

A struct is written as its slots: the name of each field, and its tree unless it is left out.
Reading stores the slots one after another (`fillMembers_present`). The sorted tree of a struct is a
struct with its slots sorted (`sorted_struct`), and can be written if the struct can
(`writable_sorted`).
-/
namespace Cosign.Encoding

open Cosign.Go

namespace Json

/-- The members of the slots that are there. -/
def present (slots : List (String × Option Json)) : List (String × Json) :=
  slots.filterMap fun slot => slot.2.map (Prod.mk slot.1)

/-- A struct with some slots. -/
def struct (slots : List (String × Option Json)) : Json := .obj (present slots)

theorem struct_ne_null (slots : List (String × Option Json)) : struct slots ≠ .null := by
  unfold struct
  exact Json.noConfusion

/-- A string with the option `omitempty`. -/
def omitString (text : String) : Option Json := if text = "" then none else some (.str text)

/-- A slice with the option `omitempty`. -/
def omitSlice {α : Type} (write : α → Json) (values : List α) : Option Json :=
  if values = [] then none else some (.arr (values.map write))

mutual

/-- The same tree, with the members of every object sorted by name. -/
def sorted : Json → Json
  | .arr elements => .arr (sortedElements elements)
  | .obj members =>
    .obj ((sortedMembers members).insertionSort fun left right => left.1 ≤ right.1)
  | .null => .null
  | .bool truth => .bool truth
  | .num literal => .num literal
  | .str text => .str text

/-- Sort the objects in elements. -/
def sortedElements : List Json → List Json
  | [] => []
  | first :: rest => first.sorted :: sortedElements rest

/-- Sort the objects in members. -/
def sortedMembers : List (String × Json) → List (String × Json)
  | [] => []
  | (name, first) :: rest => (name, first.sorted) :: sortedMembers rest

end

theorem sortedElements_eq (elements : List Json) :
    sortedElements elements = elements.map sorted := by
  induction elements with
  | nil => rfl
  | cons first rest ih => rw [sortedElements, ih, List.map_cons]

theorem sortedMembers_eq (members : List (String × Json)) :
    sortedMembers members = members.map fun entry => (entry.1, entry.2.sorted) := by
  induction members with
  | nil => rfl
  | cons first rest ih => rw [sortedMembers, ih, List.map_cons]

theorem insertionSort_eq {members ordered : List (String × Json)} (same : members.Perm ordered)
    (ascend : ordered.Pairwise fun left right => left.1 < right.1) :
    members.insertionSort (fun left right => left.1 ≤ right.1) = ordered := by
  have sortedPerm :=
    (List.perm_insertionSort (fun left right => left.1 ≤ right.1) members).trans same
  have distinct : (ordered.map Prod.fst).Nodup := by
    rw [List.Nodup, List.pairwise_map]
    exact ascend.imp fun less => ne_of_lt less
  refine sortedPerm.eq_of_pairwise (fun left right inLeft inRight below above => ?_)
    (List.pairwise_insertionSort _ _) (ascend.imp fun less => le_of_lt less)
  exact List.inj_on_of_nodup_map distinct (sortedPerm.mem_iff.mp inLeft) inRight
    (le_antisymm below above)

/-- **The sorted tree of a struct** is the struct with its slots sorted. -/
theorem sorted_struct {slots ordered : List (String × Option Json)} (names : List String)
    (same : slots.Perm ordered) (named : ordered.map Prod.fst = names)
    (ascend : names.Pairwise fun left right => left < right) :
    (struct slots).sorted = struct (ordered.map fun slot => (slot.1, slot.2.map sorted)) := by
  have inner (slots : List (String × Option Json)) : sortedMembers (present slots) =
      present (slots.map fun slot => (slot.1, slot.2.map sorted)) := by
    rw [sortedMembers_eq, present, present, List.map_filterMap, List.filterMap_map]
    simp only [Option.map_map, Function.comp_def]
  unfold struct sorted
  rw [inner]
  refine congrArg Json.obj (insertionSort_eq ((same.map _).filterMap _) ?_)
  have slotsAscend : (ordered.map fun slot => (slot.1, slot.2.map sorted)).Pairwise
      fun left right => left.1 < right.1 := by
    rw [← named, List.pairwise_map] at ascend
    exact List.pairwise_map.mpr ascend
  refine List.Pairwise.filterMap _ ?_ slotsAscend
  intro left right less first isFirst second isSecond
  obtain ⟨tree, -, rfl⟩ := Option.map_eq_some_iff.mp isFirst
  obtain ⟨tree', -, rfl⟩ := Option.map_eq_some_iff.mp isSecond
  exact less

theorem sorted_omitString (text : String) : (omitString text).map sorted = omitString text := by
  unfold omitString
  split
  · rfl
  · simp [sorted]

theorem sorted_omitSlice {α : Type} (write : α → Json) (values : List α) :
    (omitSlice write values).map sorted = omitSlice (fun value => (write value).sorted) values := by
  unfold omitSlice
  split
  · rfl
  · simp [sorted, sortedElements_eq, Function.comp_def]

theorem writableMembers_iff {limit : Nat} {members : List (String × Json)} :
    WritableMembers limit members ↔ ∀ entry ∈ members, Writable limit entry.2 := by
  induction members with
  | nil => simp [WritableMembers]
  | cons first rest ih => rw [WritableMembers, ih, List.forall_mem_cons]

mutual

theorem writable_sorted : ∀ (tree : Json) {limit : Nat}, Writable limit tree →
    Writable limit tree.sorted
  | .arr elements, limit, writable => by
    rw [Writable] at writable
    rw [sorted, Writable]
    exact ⟨writable.1, writableElements_sorted elements writable.2⟩
  | .obj members, limit, writable => by
    rw [Writable] at writable
    rw [sorted, Writable, writableMembers_iff]
    refine ⟨writable.1, fun entry found => ?_⟩
    have listed := (List.perm_insertionSort _ _).mem_iff.mp found
    exact writableMembers_iff.mp (writableMembers_sorted members writable.2) entry listed
  | .null, limit, writable => writable
  | .bool _, limit, writable => writable
  | .num _, limit, writable => writable
  | .str _, limit, writable => writable

theorem writableElements_sorted : ∀ (elements : List Json) {limit : Nat},
    WritableElements limit elements → WritableElements limit (sortedElements elements)
  | [], _, writable => writable
  | first :: rest, _, writable =>
    ⟨writable_sorted first writable.1, writableElements_sorted rest writable.2⟩

/-- Members with sorted values can be written if the members can. -/
theorem writableMembers_sorted : ∀ (members : List (String × Json)) {limit : Nat},
    WritableMembers limit members → WritableMembers limit (sortedMembers members)
  | [], _, writable => writable
  | (_, first) :: rest, _, writable =>
    ⟨writable_sorted first writable.1, writableMembers_sorted rest writable.2⟩

end

/-- A slot can be written if it is left out or its tree can be written. -/
def WritableSlot (limit : Nat) (slot : Option Json) : Prop := ∀ tree ∈ slot, Writable limit tree

theorem writable_struct {limit : Nat} {slots : List (String × Option Json)}
    (each : ∀ slot ∈ slots, WritableSlot limit slot.2) : Writable (limit + 1) (struct slots) := by
  rw [struct, Writable, writableMembers_iff]
  refine ⟨Nat.succ_pos limit, fun entry found => ?_⟩
  obtain ⟨slot, listed, present⟩ := List.mem_filterMap.mp found
  obtain ⟨tree, given, same⟩ := Option.map_eq_some_iff.mp present
  rw [← same]
  exact each slot listed tree given

theorem writable_omitString {limit : Nat} (text : String) :
    WritableSlot limit (omitString text) := by
  intro tree given
  unfold omitString at given
  split at given
  · cases given
  · cases given
    trivial

theorem writable_omitSlice {α : Type} {limit : Nat} {write : α → Json}
    (writable : ∀ value, Writable limit (write value)) (values : List α) :
    WritableSlot (limit + 1) (omitSlice write values) := by
  intro tree given
  unfold omitSlice at given
  split at given
  · cases given
  · cases given
    rw [Writable]
    exact ⟨Nat.succ_pos limit, writableElements_map writable values⟩

theorem writable_pointer {α : Type} {limit : Nat} {write : α → Json}
    (writable : ∀ value, Writable limit (write value)) (value : Option α) :
    WritableSlot limit (value.map write) := by
  intro tree given
  obtain ⟨target, -, same⟩ := Option.map_eq_some_iff.mp given
  rw [← same]
  exact writable target

end Json

variable {σ α : Type}

theorem fillElements_eq_mapM (element : Json → Except GoError α) (elements : List Json) :
    fillElements element elements = elements.mapM element := by
  induction elements with
  | nil => rfl
  | cons first rest ih =>
    rw [fillElements, List.mapM_cons, ih]
    cases element first with
    | error err => rfl
    | ok filled => cases rest.mapM element <;> rfl

/-- Store a slot into a field, if it is there. -/
def storeSlot (field : StructField σ) (filled : σ) : Option Json → Except GoError σ
  | none => .ok filled
  | some tree => field.store filled tree

theorem fillMembers_present {fields : List (StructField σ)} {field : StructField σ} {name : String}
    (selected : selectField fields name = some field) (filled : σ) (slot : Option Json)
    (rest : List (String × Option Json)) :
    fillMembers fields filled (Json.present ((name, slot) :: rest)) =
      storeSlot field filled slot >>= fun next => fillMembers fields next (Json.present rest) := by
  cases slot with
  | none => rfl
  | some tree =>
    show fillMembers fields filled ((name, tree) :: Json.present rest) =
      field.store filled tree >>= fun next => fillMembers fields next (Json.present rest)
    rw [fillMembers, selected]
    dsimp only
    cases field.store filled tree <;> rfl

/-- A string that is left out is stored as if it were there, over an empty field. -/
theorem storeSlot_string (name : String) (set : σ → String → σ) (filled : σ) (text : String)
    (empty : set filled "" = filled) :
    storeSlot ⟨name, storeString set⟩ filled (Json.omitString text) = .ok (set filled text) := by
  unfold Json.omitString
  split
  · rename_i isEmpty
    rw [isEmpty, empty]
    rfl
  · rfl

/-- A slice that is left out is stored as if it were there, over an empty field. -/
theorem storeSlot_slice {element : Json → Except GoError α} {write : α → Json} (name : String)
    (set : σ → List α → σ) (filled : σ) (values : List α) (empty : set filled [] = filled) :
    storeSlot ⟨name, storeSlice element set⟩ filled (Json.omitSlice write values) =
      (fillElements element (values.map write)).map (set filled) := by
  unfold Json.omitSlice
  split
  · rename_i isEmpty
    subst isEmpty
    exact congrArg Except.ok empty.symm
  · show storeSlice element set filled (.arr (values.map write)) = _
    rw [storeSlice]
    cases fillElements element (values.map write) <;> rfl

theorem storeSlot_pointer {β : Type} {fill : β → Json → Except GoError β} {zero : β}
    {get : σ → Option β} {set : σ → Option β → σ} {write : α → Json} (name : String) (filled : σ)
    (value : Option α) (written : ∀ value, write value ≠ .null) (unset : get filled = none)
    (empty : set filled none = filled) :
    storeSlot ⟨name, storePointer fill zero get set⟩ filled (value.map write) =
      (value.mapM fun value => fill zero (write value)).map (set filled) := by
  cases value with
  | none => exact congrArg Except.ok empty.symm
  | some value =>
    have stored : storePointer fill zero get set filled (write value) =
        (fill zero (write value)).map fun target => set filled (some target) := by
      rw [storePointer, unset, Option.getD_none]
      · cases fill zero (write value) <;> rfl
      · exact written value
    show storePointer fill zero get set filled (write value) =
      Except.map (set filled) (some <$> fill zero (write value))
    rw [stored]
    cases fill zero (write value) <;> rfl

end Cosign.Encoding
