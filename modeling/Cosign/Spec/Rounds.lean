import Mathlib.Data.List.Infix
import Mathlib.Data.List.Nodup

/-!
# Lists that are updated in rounds

A log in which a new entry takes the place of those with its key (`replace`) holds, in order, the
entries that no later one with the same key follows (`latest`).

A list to which every round adds the values that were not there before the round (`collect`) holds
all values, and repeats one exactly when a round had it twice and was the first to have it
(`nodup_collectAll`).
-/
namespace Cosign.Spec

variable {α κ : Type} [DecidableEq κ] (key : α → κ)

/-- Put an entry at the end of a log in the place of those with its key. -/
def replace (log : List α) (entry : α) : List α :=
  log.filter (fun other => key other ≠ key entry) ++ [entry]

/-- The entries that no later one with the same key follows. -/
def latest : List α → List α
  | [] => []
  | entry :: rest => if key entry ∈ rest.map key then latest rest else entry :: latest rest

variable {key}

/-- One more entry takes its place among the latest. -/
theorem latest_concat (entries : List α) (entry : α) :
    latest key (entries ++ [entry]) = replace key (latest key entries) entry := by
  induction entries with
  | nil => simp [latest, replace]
  | cons first rest ih =>
    have again : key first ∈ (rest ++ [entry]).map key ↔
        key first ∈ rest.map key ∨ key first = key entry := by
      simp
    simp only [List.cons_append, latest, again, ih]
    by_cases later : key first ∈ rest.map key
    · rw [if_pos (.inl later), if_pos later]
    · by_cases same : key first = key entry
      · rw [if_pos (.inr same), if_neg later]
        simp [replace, same]
      · rw [if_neg (not_or.mpr ⟨later, same⟩), if_neg later]
        simp [replace, same]

/-- The latest entries are entries. -/
theorem mem_of_mem_latest {entries : List α} {entry : α} (listed : entry ∈ latest key entries) :
    entry ∈ entries := by
  induction entries with
  | nil => exact listed
  | cons first rest ih =>
    unfold latest at listed
    split at listed
    · exact List.mem_cons_of_mem _ (ih listed)
    · cases List.mem_cons.mp listed with
      | inl same => exact List.mem_cons.mpr (.inl same)
      | inr later => exact List.mem_cons_of_mem _ (ih later)

/-- Every key of an entry has a latest entry. -/
theorem exists_mem_latest {entries : List α} {entry : α} (listed : entry ∈ entries) :
    ∃ last ∈ latest key entries, key last = key entry := by
  induction entries generalizing entry with
  | nil => cases listed
  | cons first rest ih =>
    unfold latest
    cases List.mem_cons.mp listed with
    | inr later =>
      have ⟨last, found, same⟩ := ih later
      split
      · exact ⟨last, found, same⟩
      · exact ⟨last, List.mem_cons_of_mem _ found, same⟩
    | inl here =>
      split
      · rename_i again
        have ⟨other, later, same⟩ := List.mem_map.mp again
        have ⟨last, found, agrees⟩ := ih later
        exact ⟨last, found, by rw [agrees, same, here]⟩
      · exact ⟨first, List.mem_cons_self, by rw [here]⟩

/-- No two latest entries have one key. -/
theorem latest_unique {entries : List α} {left right : α} (inLeft : left ∈ latest key entries)
    (inRight : right ∈ latest key entries) (same : key left = key right) : left = right := by
  induction entries with
  | nil => cases inLeft
  | cons first rest ih =>
    unfold latest at inLeft inRight
    split at inLeft
    · rename_i again
      rw [if_pos again] at inRight
      exact ih inLeft inRight
    · rename_i alone
      rw [if_neg alone] at inRight
      -- an entry of the rest has a key of the rest, and the first has not
      have apart {other : α} (later : other ∈ latest key rest) : key other ≠ key first :=
        fun shared => alone (List.mem_map.mpr ⟨other, mem_of_mem_latest later, shared⟩)
      cases List.mem_cons.mp inLeft with
      | inl here =>
        cases List.mem_cons.mp inRight with
        | inl there => rw [here, there]
        | inr later => exact absurd (same.symm.trans (congrArg key here)) (apart later)
      | inr later =>
        cases List.mem_cons.mp inRight with
        | inl there => exact absurd (same.trans (congrArg key there)) (apart later)
        | inr also => exact ih later also

/-- Two keys that tell the same entries apart have the same latest entries. -/
theorem latest_congr {κ' : Type} [DecidableEq κ'] {key' : α → κ'} {entries : List α}
    (agree : ∀ left ∈ entries, ∀ right ∈ entries, key left = key right ↔ key' left = key' right) :
    latest key entries = latest key' entries := by
  induction entries with
  | nil => rfl
  | cons first rest ih =>
    have later : key first ∈ rest.map key ↔ key' first ∈ rest.map key' := by
      rw [List.mem_map, List.mem_map]
      apply exists_congr
      intro other
      apply and_congr_right
      intro listed
      exact agree other (List.mem_cons_of_mem _ listed) first List.mem_cons_self
    have inRest := ih fun left inLeft right inRight =>
      agree left (List.mem_cons_of_mem _ inLeft) right (List.mem_cons_of_mem _ inRight)
    simp only [latest, later, inRest]

/-! ## Collected values -/

/-- Add the values of a round that were not there before it. -/
def collect (held round : List κ) : List κ := held ++ round.filter (· ∉ held)

/-- The values after some rounds. -/
def collectAll (rounds : List (List κ)) : List κ := rounds.foldl collect []

/-- One more round. -/
theorem collectAll_concat (rounds : List (List κ)) (round : List κ) :
    collectAll (rounds ++ [round]) = collect (collectAll rounds) round := by
  simp [collectAll]

/-- After a round a value is there if it was before or is one of the round. -/
theorem mem_collect {held round : List κ} {value : κ} :
    value ∈ collect held round ↔ value ∈ held ∨ value ∈ round := by
  by_cases known : value ∈ held
  · simp [collect, known]
  · simp [collect, known]

/-- After all rounds exactly their values are there. -/
theorem mem_collectAll {rounds : List (List κ)} {value : κ} :
    value ∈ collectAll rounds ↔ ∃ round ∈ rounds, value ∈ round := by
  induction rounds using List.reverseRecOn with
  | nil => simp [collectAll]
  | append_singleton before last ih =>
    rw [collectAll_concat, mem_collect, ih]
    simp only [List.mem_append, List.mem_singleton, or_and_right, exists_or, exists_eq_left]

/-- A round repeats no value exactly when none was repeated before and those that it adds are
distinct. -/
theorem nodup_collect {held round : List κ} :
    (collect held round).Nodup ↔ held.Nodup ∧ (round.filter (· ∉ held)).Nodup := by
  have apart : held.Disjoint (round.filter (· ∉ held)) := by
    intro value before added
    exact of_decide_eq_true (List.mem_filter.mp added).2 before
  unfold collect
  rw [List.nodup_append']
  exact ⟨fun all => ⟨all.1, all.2.1⟩, fun both => ⟨both.1, both.2, apart⟩⟩

/-- No value is repeated after all rounds exactly when in every round the values that no earlier
round had are distinct. -/
theorem nodup_collectAll {values : α → List κ} {rounds : List α} :
    (collectAll (rounds.map values)).Nodup ↔ ∀ before round, before ++ [round] <+: rounds →
      ((values round).filter fun value => ∀ earlier ∈ before, value ∉ values earlier).Nodup := by
  induction rounds using List.reverseRecOn with
  | nil => simp [collectAll]
  | append_singleton first last ih =>
    have same : ((values last).filter fun value => ∀ earlier ∈ first, value ∉ values earlier) =
        (values last).filter (· ∉ collectAll (first.map values)) := by
      apply List.filter_congr
      intro value _
      simp [mem_collectAll]
    rw [List.map_append, List.map_singleton, collectAll_concat, nodup_collect, ih, ← same]
    constructor
    · intro ⟨earlier, added⟩ before round begins
      cases List.prefix_concat_iff.mp begins with
      | inl whole =>
        have ⟨sameBefore, sameRound⟩ := List.append_inj' whole rfl
        cases sameRound
        rw [sameBefore]
        exact added
      | inr inside => exact earlier before round inside
    · intro distinct
      refine ⟨fun before round begins => ?_, distinct first last (List.prefix_refl _)⟩
      exact distinct before round (begins.trans (List.prefix_append _ _))

end Cosign.Spec
