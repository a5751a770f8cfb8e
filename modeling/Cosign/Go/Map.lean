import Mathlib.Data.List.AList

/-!
# Go maps with string keys

A map is an association list without repeated keys in the order of one iteration, so what holds of
every such list holds whatever order the runtime picks. Loops that collect lists under keys are
described by the lookups of their result (`GoMap.lookup_appendAt`); a map with as many keys as one
that contains them has all of them (`GoMap.mem_of_len_eq`).
-/
namespace Cosign.Go

/-- A Go `map[string]T`; the order of the entries is one order of iteration. -/
abbrev GoMap (α : Type) : Type := AList fun _ : String => α

namespace GoMap

variable {α β : Type}

/-- `len(m)`. -/
def len (entries : GoMap α) : Nat := entries.keys.length

/-- `m[key] = append(m[key], values...)`; appending nothing under a new key makes an entry. -/
def appendAt (lists : GoMap (List α)) (key : String) (values : List α) : GoMap (List α) :=
  lists.insert key ((lists.lookup key).getD [] ++ values)

/-- Appending under a key makes the key present and keeps every other one. -/
@[simp] theorem mem_appendAt {lists : GoMap (List α)} {key other : String} {values : List α} :
    other ∈ lists.appendAt key values ↔ other = key ∨ other ∈ lists :=
  AList.mem_insert _

/-- The list under a key after an append. -/
theorem lookup_appendAt {lists : GoMap (List α)} {key other : String} {values : List α} :
    (lists.appendAt key values).lookup other =
      if other = key then some ((lists.lookup key).getD [] ++ values) else lists.lookup other := by
  unfold appendAt
  split
  · rename_i same
    rw [same, AList.lookup_insert]
  · rename_i different
    exact AList.lookup_insert_ne different

/-- A key under which something is found is present. -/
theorem mem_of_lookup {entries : GoMap α} {key : String} {value : α}
    (found : entries.lookup key = some value) : key ∈ entries :=
  AList.lookup_isSome.mp (Option.isSome_of_mem found)

/-- Something is found under a key that is present. -/
theorem exists_lookup {entries : GoMap α} {key : String} (present : key ∈ entries) :
    ∃ value, entries.lookup key = some value :=
  Option.isSome_iff_exists.mp (AList.lookup_isSome.mpr present)

/-- An entry is what is found under its key. -/
theorem lookup_of_entry {entries : GoMap α} {key : String} {value : α}
    (listed : ⟨key, value⟩ ∈ entries.entries) : entries.lookup key = some value :=
  AList.mem_lookup_iff.mpr listed

/-- A map without keys has no key to look up. -/
theorem len_eq_zero {entries : GoMap α} : entries.len = 0 ↔ ∀ key, key ∉ entries := by
  unfold len
  rw [List.length_eq_zero_iff, List.eq_nil_iff_forall_not_mem]
  exact Iff.rfl

/-- A map whose keys are among those of another and as many as those has all of them. -/
theorem mem_of_len_eq {part : GoMap α} {whole : GoMap β} (among : ∀ key ∈ part, key ∈ whole)
    (many : part.len = whole.len) {key : String} (present : key ∈ whole) : key ∈ part := by
  have subset : part.keys.Subperm whole.keys :=
    List.subperm_of_subset (AList.keys_nodup part) among
  exact (subset.perm_of_length_le (Nat.le_of_eq many.symm)).mem_iff.mpr present

end GoMap

/-- An order for a `range` loop: it lists the entries of every map in some order. -/
structure RangeOrder (α : Type) where
  /-- The entries of a map in the order of the loop. -/
  arrange : GoMap α → GoMap α
  /-- All entries are visited, each once. -/
  perm : ∀ entries, (arrange entries).entries.Perm entries.entries

namespace RangeOrder

variable {α : Type}

/-- The loop visits the entry of one key first, if there is one. -/
def startAt (key : String) : RangeOrder α where
  arrange entries :=
    match entries.lookup key with
    | some value => entries.insert key value
    | none => entries
  perm entries := by
    split
    · rename_i value found
      -- putting back what is already there changes no lookup
      apply List.lookup_ext (AList.nodupKeys _) (AList.nodupKeys _)
      intro other held
      show held ∈ (entries.insert key value).lookup other ↔ held ∈ entries.lookup other
      by_cases same : other = key
      · rw [same, AList.lookup_insert, found]
      · rw [AList.lookup_insert_ne same]
    · exact .refl _

/-- A loop that starts at a key visits its entry first. -/
theorem entries_startAt {entries : GoMap α} {key : String} {value : α}
    (found : entries.lookup key = some value) :
    ∃ rest, ((startAt key).arrange entries).entries = ⟨key, value⟩ :: rest := by
  refine ⟨List.kerase key entries.entries, ?_⟩
  simp only [startAt, found]
  rfl

/-- The loop visits exactly the entries of the map. -/
theorem mem_arrange (order : RangeOrder α) {entries : GoMap α} {key : String} {value : α} :
    ⟨key, value⟩ ∈ (order.arrange entries).entries ↔ entries.lookup key = some value := by
  rw [(order.perm entries).mem_iff]
  exact AList.mem_lookup_iff.symm

end RangeOrder

end Cosign.Go
