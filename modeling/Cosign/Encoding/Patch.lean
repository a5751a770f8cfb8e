import Cosign.Go.Outcome
import Mathlib.Data.List.AList

/-!
# JSON patches of an object

A document has one member that is an object, left out when empty. A patch is the difference of two
documents and is applied to a third. The difference by one key is at most one operation
(`PatchFor`); where one of the objects is empty, it is an operation on the whole member, which takes
away what the other keys hold (`PatchFor.lookup_of_ne`).
-/
namespace Cosign.Encoding.Patch

open Cosign.Go

/-- The entries of an object, in some order. -/
abbrev Entries (κ ν : Type) : Type := AList fun _ : κ => ν

/-- An operation on the member or on one of its entries. -/
inductive PatchOp (κ ν : Type) where
  /-- `add` with the path of the member. -/
  | addMember (entries : Entries κ ν)
  /-- `remove` with the path of the member. -/
  | removeMember
  /-- `add` with the path of an entry. -/
  | add (key : κ) (value : ν)
  /-- `replace` with the path of an entry. -/
  | replace (key : κ) (value : ν)
  /-- `remove` with the path of an entry. -/
  | remove (key : κ)

variable {κ ν : Type}

/-- The member for an object: none when the object is empty. -/
def member (entries : Entries κ ν) : Option (Entries κ ν) :=
  if entries.entries.isEmpty then none else some entries

theorem member_of_empty {entries : Entries κ ν} (empty : ∀ key, key ∉ entries) :
    member entries = none := by
  have nothing : entries.entries = [] := by
    cases listed : entries.entries with
    | nil => rfl
    | cons first rest =>
      have present : first.1 ∈ entries := by
        show first.1 ∈ entries.entries.keys
        rw [listed]
        exact List.mem_cons_self
      exact absurd present (empty first.1)
  simp [member, nothing]

theorem member_of_mem {entries : Entries κ ν} {key : κ} (present : key ∈ entries) :
    member entries = some entries := by
  cases listed : entries.entries with
  | nil =>
    have keyed : key ∈ entries.entries.keys := present
    rw [listed] at keyed
    cases keyed
  | cons first rest => simp [member, listed]

theorem getD_member (entries : Entries κ ν) : (member entries).getD ∅ = entries := by
  by_cases empty : entries.entries.isEmpty
  · rw [member, if_pos empty]
    exact AList.ext (List.isEmpty_iff.mp empty).symm
  · rw [member, if_neg empty]
    rfl

/-- The error for a path that is not there. -/
def missingPath : GoError := ⟨"the server rejected our request due to an error in our request"⟩

variable [DecidableEq κ]

/-- Apply an operation: the path of the member or of the entry must be there, except that `add`
makes it. -/
def PatchOp.apply (target : Option (Entries κ ν)) :
    PatchOp κ ν → Except GoError (Option (Entries κ ν))
  | .addMember entries => .ok (some entries)
  | .removeMember => if target.isSome then .ok none else .error missingPath
  | .add key value =>
    match target with
    | some entries => .ok (some (entries.insert key value))
    | none => .error missingPath
  | .replace key value =>
    match target with
    | some entries =>
      if key ∈ entries then .ok (some (entries.insert key value)) else .error missingPath
    | none => .error missingPath
  | .remove key =>
    match target with
    | some entries =>
      if key ∈ entries then .ok (some (entries.erase key)) else .error missingPath
    | none => .error missingPath

/-- The object after a patch; one operation that does not apply rejects the patch. -/
def applyPatch (ops : List (PatchOp κ ν)) (entries : Entries κ ν) :
    Except GoError (Entries κ ν) :=
  (ops.foldlM PatchOp.apply (member entries)).map fun target => target.getD ∅

/-- What a server stores when it gets a patch: a rejected patch changes nothing. -/
def patched (ops : List (PatchOp κ ν)) (entries : Entries κ ν) : Entries κ ν :=
  match applyPatch ops entries with
  | .ok after => after
  | .error _ => entries

theorem applyPatch_nil (entries : Entries κ ν) : applyPatch [] entries = .ok entries :=
  congrArg Except.ok (getD_member entries)

theorem applyPatch_single (op : PatchOp κ ν) (entries : Entries κ ν) :
    applyPatch [op] entries = (op.apply (member entries)).map fun target => target.getD ∅ := by
  simp [applyPatch]

/-- The paths of an operation are those of the entry with a key. -/
def PatchOp.On (key : κ) : PatchOp κ ν → Prop
  | .addMember _ => False
  | .removeMember => False
  | .add other _ => other = key
  | .replace other _ => other = key
  | .remove other => other = key

theorem lookup_patched_of_ne (op : PatchOp κ ν) {key other : κ} (on : op.On key)
    (apart : other ≠ key) (entries : Entries κ ν) :
    (patched [op] entries).lookup other = entries.lookup other := by
  unfold patched
  rw [applyPatch_single]
  unfold member
  by_cases empty : entries.entries.isEmpty
  · cases op <;> simp_all [PatchOp.apply, Except.map, PatchOp.On]
  · cases op with
    | addMember entries => cases on
    | removeMember => cases on
    | add target value =>
      cases on
      simp [PatchOp.apply, Except.map, empty, AList.lookup_insert_ne apart]
    | replace target value =>
      cases on
      by_cases present : key ∈ entries <;>
        simp [PatchOp.apply, Except.map, empty, present, AList.lookup_insert_ne apart]
    | remove target =>
      cases on
      by_cases present : key ∈ entries <;>
        simp [PatchOp.apply, Except.map, empty, present, AList.lookup_erase_ne apart]

theorem patched_addMember (filled entries : Entries κ ν) :
    patched [.addMember filled] entries = filled := rfl

theorem patched_removeMember (entries : Entries κ ν) : patched [.removeMember] entries = ∅ := by
  have held := getD_member entries
  unfold patched
  rw [applyPatch_single]
  cases given : member entries with
  | none =>
    rw [given] at held
    exact held.symm
  | some target => rfl

/-- An object with one key assigned: `none` deletes the key. -/
def assign (entries : Entries κ ν) (key : κ) : Option ν → Entries κ ν
  | some value => entries.insert key value
  | none => entries.erase key

theorem lookup_assign (entries : Entries κ ν) (key other : κ) (wanted : Option ν) :
    (assign entries key wanted).lookup other =
      if other = key then wanted else entries.lookup other := by
  by_cases same : other = key
  · subst same
    cases wanted with
    | some value => simp [assign]
    | none => simp [assign]
  · cases wanted with
    | some value => simp [assign, same, AList.lookup_insert_ne same]
    | none => simp [assign, same, AList.lookup_erase_ne same]

theorem filter_keys_erase (before : Entries κ ν) (key : κ) :
    (before.keys.filter fun other => decide (other ∉ before.erase key)) =
      if key ∈ before then [key] else [] := by
  have lacks : ∀ other ∈ before.keys,
      decide (other ∉ before.erase key) = decide (other = key) := by
    intro other listed
    have present : other ∈ before := AList.mem_keys.mpr listed
    simp [AList.mem_erase, present]
  rw [List.filter_congr lacks, List.filter_eq]
  by_cases present : key ∈ before
  · rw [List.count_eq_one_of_mem before.keys_nodup (AList.mem_keys.mp present), if_pos present]
    rfl
  · rw [List.count_eq_zero_of_not_mem fun listed => present (AList.mem_keys.mpr listed),
      if_neg present]
    rfl

section Diff

variable [DecidableEq ν]

/-- The operation for an entry of the new object, if it is new or has changed. -/
def changedEntry (before : Entries κ ν) (entry : Sigma fun _ : κ => ν) : Option (PatchOp κ ν) :=
  match before.lookup entry.1 with
  | none => some (.add entry.1 entry.2)
  | some value => if value = entry.2 then none else some (.replace entry.1 entry.2)

/-- The difference of two objects. -/
def diffEntries (before after : Entries κ ν) : List (PatchOp κ ν) :=
  after.entries.filterMap (changedEntry before) ++
    (before.keys.filter fun key => decide (key ∉ after)).map .remove

/-- The difference of two documents. -/
def createPatch (before after : Entries κ ν) : List (PatchOp κ ν) :=
  match member before, member after with
  | none, none => []
  | none, some entries => [.addMember entries]
  | some _, none => [.removeMember]
  | some entries, some changed => diffEntries entries changed

theorem filterMap_changedEntry {before : Entries κ ν} {entries : List (Sigma fun _ : κ => ν)}
    (old : ∀ entry ∈ entries, entry ∈ before.entries) :
    entries.filterMap (changedEntry before) = [] := by
  refine List.filterMap_eq_nil_iff.mpr fun entry listed => ?_
  have held : before.lookup entry.1 = some entry.2 := AList.mem_lookup_iff.mpr (old entry listed)
  simp [changedEntry, held]

/-- The difference between an object and the object with one key assigned. -/
inductive PatchFor (key : κ) (snapshot : Entries κ ν) : Option ν → List (PatchOp κ ν) → Prop where
  /-- The key has that value. -/
  | same {wanted : Option ν} (held : snapshot.lookup key = wanted) : PatchFor key snapshot wanted []
  /-- The object was empty. -/
  | fill (value : ν) (empty : ∀ other, other ∉ snapshot) :
    PatchFor key snapshot (some value) [.addMember (snapshot.insert key value)]
  /-- The object becomes empty. -/
  | clear (present : key ∈ snapshot) (only : ∀ other ∈ snapshot, other = key) :
    PatchFor key snapshot none [.removeMember]
  /-- The key is new. -/
  | add (value : ν) {other : κ} (more : other ∈ snapshot) (absent : key ∉ snapshot) :
    PatchFor key snapshot (some value) [.add key value]
  /-- The key has another value. -/
  | replace (value : ν) (present : key ∈ snapshot) (differs : snapshot.lookup key ≠ some value) :
    PatchFor key snapshot (some value) [.replace key value]
  /-- The key goes, and others stay. -/
  | remove {other : κ} (present : key ∈ snapshot) (more : other ∈ snapshot) (apart : other ≠ key) :
    PatchFor key snapshot none [.remove key]

theorem createPatch_insert (snapshot : Entries κ ν) (key : κ) (value : ν) :
    PatchFor key snapshot (some value) (createPatch snapshot (snapshot.insert key value)) := by
  have filled : member (snapshot.insert key value) = some (snapshot.insert key value) :=
    member_of_mem ((AList.mem_insert snapshot).mpr (.inl rfl))
  by_cases empty : ∀ other, other ∉ snapshot
  · unfold createPatch
    rw [member_of_empty empty, filled]
    exact .fill value empty
  · obtain ⟨other, more⟩ : ∃ other, other ∈ snapshot := by
      simpa using empty
    have kept : (List.kerase key snapshot.entries).filterMap (changedEntry snapshot) = [] :=
      filterMap_changedEntry fun entry listed => (List.kerase_sublist key _).subset listed
    have nothing : (snapshot.keys.filter fun other => decide (other ∉ snapshot.insert key value)) =
        [] := by
      refine List.filter_eq_nil_iff.mpr fun other listed => ?_
      simp [AList.mem_keys.mpr listed]
    have one : createPatch snapshot (snapshot.insert key value) =
        (changedEntry snapshot ⟨key, value⟩).toList := by
      unfold createPatch
      rw [member_of_mem more, filled]
      simp only [diffEntries, AList.entries_insert, nothing, List.filterMap_cons, kept]
      cases changedEntry snapshot ⟨key, value⟩ <;> rfl
    rw [one]
    unfold changedEntry
    cases held : snapshot.lookup key with
    | none => exact .add value more (AList.lookup_eq_none.mp held)
    | some old =>
      have present : key ∈ snapshot := AList.lookup_isSome.mp (Option.isSome_of_mem held)
      by_cases same : old = value
      · simpa [same] using PatchFor.same (same ▸ held)
      · simpa [same] using PatchFor.replace value present (by simpa [held] using same)

theorem createPatch_erase (snapshot : Entries κ ν) (key : κ) :
    PatchFor key snapshot none (createPatch snapshot (snapshot.erase key)) := by
  have kept : (snapshot.erase key).entries.filterMap (changedEntry snapshot) = [] :=
    filterMap_changedEntry fun entry listed => (List.kerase_sublist key _).subset listed
  have diff : diffEntries snapshot (snapshot.erase key) =
      if key ∈ snapshot then [.remove key] else [] := by
    unfold diffEntries
    rw [kept, filter_keys_erase]
    split <;> rfl
  by_cases present : key ∈ snapshot
  · by_cases only : ∀ other ∈ snapshot, other = key
    · have gone : member (snapshot.erase key) = none :=
        member_of_empty fun other listed => by
          obtain ⟨apart, stays⟩ := AList.mem_erase.mp listed
          exact apart (only other stays)
      unfold createPatch
      rw [member_of_mem present, gone]
      exact .clear present only
    · obtain ⟨other, more, apart⟩ : ∃ other, other ∈ snapshot ∧ other ≠ key := by
        simpa using only
      unfold createPatch
      rw [member_of_mem present, member_of_mem (AList.mem_erase.mpr ⟨apart, more⟩)]
      simp only [diff, if_pos present]
      exact .remove present more apart
  · have nothing : createPatch snapshot (snapshot.erase key) = [] := by
      by_cases empty : ∀ other, other ∉ snapshot
      · unfold createPatch
        rw [member_of_empty empty, member_of_empty fun other listed =>
          empty other (AList.mem_erase.mp listed).2]
      · obtain ⟨other, more⟩ : ∃ other, other ∈ snapshot := by
          simpa using empty
        have apart : other ≠ key := fun same => present (same ▸ more)
        unfold createPatch
        rw [member_of_mem more, member_of_mem (AList.mem_erase.mpr ⟨apart, more⟩)]
        simp only [diff, if_neg present]
    rw [nothing]
    exact .same (AList.lookup_eq_none.mpr present)

/-- **The difference that one assignment makes** is at most one operation. -/
theorem createPatch_assign (snapshot : Entries κ ν) (key : κ) (wanted : Option ν) :
    PatchFor key snapshot wanted (createPatch snapshot (assign snapshot key wanted)) := by
  cases wanted with
  | some value => exact createPatch_insert snapshot key value
  | none => exact createPatch_erase snapshot key

end Diff

/-- The difference is an operation on the member as a whole: the only key of the object can be the
assigned one, and it is there exactly when it is deleted. -/
def Whole (key : κ) (snapshot : Entries κ ν) (wanted : Option ν) : Prop :=
  (∀ other ∈ snapshot, other = key) ∧ (key ∈ snapshot ↔ wanted = none)

namespace PatchFor

variable {key : κ} {snapshot : Entries κ ν} {wanted : Option ν} {ops : List (PatchOp κ ν)}

theorem eq_nil_iff (patch : PatchFor key snapshot wanted ops) :
    ops = [] ↔ snapshot.lookup key = wanted := by
  cases patch with
  | same held => simp [held]
  | fill value empty => simp [AList.lookup_eq_none.mpr (empty key)]
  | clear present only => simpa [AList.lookup_eq_none] using present
  | add value more absent => simp [AList.lookup_eq_none.mpr absent]
  | replace value present differs => simpa using differs
  | remove present more apart => simpa [AList.lookup_eq_none] using present

/-- Applied to the object that it was computed from, a patch makes the assignment. -/
theorem applyPatch_snapshot (patch : PatchFor key snapshot wanted ops) :
    ∃ after, applyPatch ops snapshot = .ok after ∧
      ∀ other, after.lookup other = (assign snapshot key wanted).lookup other := by
  cases patch with
  | same held =>
    refine ⟨snapshot, applyPatch_nil snapshot, fun other => ?_⟩
    rw [lookup_assign]
    split
    · rename_i same
      rw [same, held]
    · rfl
  | fill value empty => exact ⟨_, rfl, fun other => rfl⟩
  | clear present only =>
    refine ⟨∅, ?_, fun other => ?_⟩
    · rw [applyPatch_single, member_of_mem present]
      rfl
    · have gone : other ∉ snapshot.erase key := by
        intro listed
        have found := AList.mem_erase.mp listed
        exact found.1 (only other found.2)
      exact (AList.lookup_eq_none.mpr gone).symm
  | add value more absent =>
    refine ⟨snapshot.insert key value, ?_, fun other => rfl⟩
    rw [applyPatch_single, member_of_mem more]
    rfl
  | replace value present differs =>
    refine ⟨snapshot.insert key value, ?_, fun other => rfl⟩
    rw [applyPatch_single, member_of_mem present]
    simp [PatchOp.apply, present, Except.map]
  | remove present more apart =>
    refine ⟨snapshot.erase key, ?_, fun other => rfl⟩
    rw [applyPatch_single, member_of_mem present]
    simp [PatchOp.apply, present, Except.map]

/-- A patch is an operation on the whole member, or leaves the other keys alone. -/
theorem whole_or_keeps (patch : PatchFor key snapshot wanted ops) :
    (Whole key snapshot wanted ∧ ∀ current other, other ≠ key →
      (patched ops current).lookup other = none) ∨
    (¬Whole key snapshot wanted ∧ ∀ current other, other ≠ key →
      (patched ops current).lookup other = current.lookup other) := by
  cases patch with
  | same held =>
    refine .inr ⟨fun whole => ?_, fun current other apart => ?_⟩
    · have absent := whole.2
      rw [← held, AList.lookup_eq_none] at absent
      exact iff_not_self absent
    · unfold patched
      rw [applyPatch_nil]
  | fill value empty =>
    refine .inl ⟨⟨fun other listed => absurd listed (empty other), ?_⟩,
      fun current other apart => ?_⟩
    · simp [empty key]
    · rw [patched_addMember, AList.lookup_insert_ne apart]
      exact AList.lookup_eq_none.mpr (empty other)
  | clear present only =>
    refine .inl ⟨⟨only, by simp [present]⟩, fun current other apart => ?_⟩
    rw [patched_removeMember]
    exact AList.lookup_empty other
  | add value more absent =>
    refine .inr ⟨fun whole => absent (whole.1 _ more ▸ more), fun current other apart => ?_⟩
    exact lookup_patched_of_ne (.add key value) rfl apart current
  | replace value present differs =>
    refine .inr ⟨fun whole => ?_, fun current other apart => ?_⟩
    · cases whole.2.mp present
    · exact lookup_patched_of_ne (.replace key value) rfl apart current
  | remove present more apart =>
    refine .inr ⟨fun whole => apart (whole.1 _ more), fun current other apart => ?_⟩
    exact lookup_patched_of_ne (.remove key) rfl apart current

/-- **A patch disturbs other keys** exactly when it is an operation on the whole member and there
are other keys by then. -/
theorem disturbs_iff (patch : PatchFor key snapshot wanted ops) (current : Entries κ ν) :
    (∃ other, other ≠ key ∧ (patched ops current).lookup other ≠ current.lookup other) ↔
      Whole key snapshot wanted ∧ ∃ other, other ≠ key ∧ other ∈ current := by
  cases patch.whole_or_keeps with
  | inl whole =>
    rw [and_iff_right whole.1]
    refine exists_congr fun other => and_congr_right fun apart => ?_
    rw [whole.2 current other apart, ← AList.lookup_isSome, Option.isSome_iff_ne_none]
    exact ne_comm
  | inr keeps =>
    constructor
    · rintro ⟨other, apart, changed⟩
      exact absurd (keeps.2 current other apart) changed
    · exact fun whole => absurd whole.1 keeps.1

end PatchFor

end Cosign.Encoding.Patch
