import Mathlib.Data.List.Infix
import Mathlib.Logic.Relation

/-!
# Lists that several clients extend by overwriting

Clients of a store without append read a list, extend it and write the whole back, at the same time.
A property that extending keeps holds of what is there from then on, once it holds of what is there
and of everything that is going to be written (`Throughout.run`).
-/
namespace Cosign.Spec

variable {α : Type}

/-- A list in a store and the lists that clients are going to write there. -/
structure Cell (α : Type) where
  /-- What is there. -/
  held : List α
  /-- What is going to be written. -/
  pending : List (List α)

/-- One step of a client. -/
inductive CellStep (new : α → Prop) : Cell α → Cell α → Prop where
  /-- A client reads the list and extends it by new values. -/
  | read (cell : Cell α) (added : List α) (fresh : ∀ value ∈ added, new value) :
      CellStep new cell ⟨cell.held, (cell.held ++ added) :: cell.pending⟩
  /-- A client writes its list. -/
  | write (cell : Cell α) (before after : List (List α)) (list : List α)
      (waiting : cell.pending = before ++ list :: after) :
      CellStep new cell ⟨list, before ++ after⟩

/-- Any number of steps of clients. -/
def CellRun (new : α → Prop) : Cell α → Cell α → Prop := Relation.ReflTransGen (CellStep new)

variable {new : α → Prop} {cell next : Cell α}

/-- What is still going to be written after a write was so before. -/
theorem mem_pending_of_removed {before after : List (List α)} {list other : List α}
    (waiting : cell.pending = before ++ list :: after) (member : other ∈ before ++ after) :
    other ∈ cell.pending := by
  rw [waiting]
  rcases List.mem_append.mp member with member | member
  · exact List.mem_append_left _ member
  · exact List.mem_append_right _ (List.mem_cons_of_mem _ member)

/-- Extending a list by new values keeps a property of it. -/
def KeptByExtending (new : α → Prop) (P : List α → Prop) : Prop :=
  ∀ list added, P list → (∀ value ∈ added, new value) → P (list ++ added)

/-- A list stays the beginning of what extends it. -/
theorem prefix_keptByExtending (new : α → Prop) (base : List α) :
    KeptByExtending new (base <+: ·) :=
  fun _ added begins _ => begins.trans (List.prefix_append _ added)

/-- A list is another one and new values after it. -/
def Extends (base : List α) (new : α → Prop) (list : List α) : Prop :=
  ∃ added, list = base ++ added ∧ ∀ value ∈ added, new value

/-- More new values after a list are new values after it. -/
theorem extends_keptByExtending (new : α → Prop) (base : List α) :
    KeptByExtending new (Extends base new) := by
  intro list added extended fresh
  obtain ⟨before, whole, freshBefore⟩ := extended
  refine ⟨before ++ added, by rw [whole, List.append_assoc], fun value inside => ?_⟩
  exact (List.mem_append.mp inside).elim (freshBefore value) (fresh value)

/-- What is there, and everything that is going to be written, has a property. -/
structure Throughout (P : List α → Prop) (cell : Cell α) : Prop where
  /-- What is there. -/
  held : P cell.held
  /-- What is going to be written. -/
  pending : ∀ list ∈ cell.pending, P list

variable {P : List α → Prop}

/-- A step keeps a property that extending keeps. -/
theorem Throughout.step (kept : KeptByExtending new P) (all : Throughout P cell)
    (step : CellStep new cell next) : Throughout P next := by
  cases step with
  | read added fresh =>
    refine ⟨all.held, fun list member => ?_⟩
    rcases List.mem_cons.mp member with rfl | member
    · exact kept cell.held added all.held fresh
    · exact all.pending list member
  | write before after list waiting =>
    have here : list ∈ cell.pending := by simp [waiting]
    exact ⟨all.pending list here,
      fun other member => all.pending other (mem_pending_of_removed waiting member)⟩

/-- **A run keeps a property that extending keeps.** -/
theorem Throughout.run (kept : KeptByExtending new P) (all : Throughout P cell)
    (run : CellRun new cell next) : Throughout P next := by
  induction run with
  | refl => exact all
  | tail _ step ih => exact ih.step kept step

end Cosign.Spec
