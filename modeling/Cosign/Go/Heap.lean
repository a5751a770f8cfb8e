import Cosign.Go.Proc
import Mathlib.Data.List.Range
import Mathlib.Logic.Function.Basic

/-!
# Memory that pointers refer to

A heap has cells of one type; a pointer is the number of a cell, and new cells are taken from the
end. What is only copied, or changed through new pointers, leaves the old cells as they are
(`Extends`). A structure is copied part by part, to new and different pointers (`Copies.both`).

A procedure that works through pointers is described by a function without: what is read afterwards
is what the function makes of what was read before (`Changes`). Descriptions compose in sequence
(`Changes.andThen`), beside other pointers (`Changes.left`, `Changes.right`) and under a structure
(`Changes.image`).
-/
namespace Cosign.Go

/-- Cells of one type, in use below `next`. -/
structure Heap (α : Type) where
  /-- What a cell holds. -/
  cell : Nat → α
  /-- The first cell that is not in use. -/
  next : Nat

namespace Heap

variable {α : Type}

/-- A pointer to a copy of what a pointer refers to. -/
def copy (pointer : Nat) : Proc (Heap α) Nat := fun heap =>
  (.ok heap.next, ⟨Function.update heap.cell heap.next (heap.cell pointer), heap.next + 1⟩)

/-- Change what a pointer refers to; a call that fails leaves it as it is. -/
def update (change : α → Except GoError α) (pointer : Nat) : Proc (Heap α) Unit := fun heap =>
  match change (heap.cell pointer) with
  | .error err => (.error err, heap)
  | .ok value => (.ok (), { heap with cell := Function.update heap.cell pointer value })

/-- The cells of one heap are the first cells of another. -/
structure Extends (heap later : Heap α) : Prop where
  /-- No cell is given back. -/
  grows : heap.next ≤ later.next
  /-- The cells hold what they held. -/
  holds : ∀ pointer < heap.next, later.cell pointer = heap.cell pointer

/-- A heap extends itself. -/
theorem Extends.refl (heap : Heap α) : Extends heap heap := ⟨Nat.le_refl _, fun _ _ => rfl⟩

/-- Extensions compose. -/
theorem Extends.trans {heap middle later : Heap α} (first : Extends heap middle)
    (second : Extends middle later) : Extends heap later := by
  refine ⟨Nat.le_trans first.grows second.grows, fun pointer below => ?_⟩
  rw [second.holds pointer (Nat.lt_of_lt_of_le below first.grows), first.holds pointer below]

/-- A copy is made in a new cell. -/
theorem copy_extends (pointer : Nat) (heap : Heap α) : Extends heap (copy pointer heap).2 := by
  refine ⟨Nat.le_succ _, fun other below => ?_⟩
  exact Function.update_of_ne (Nat.ne_of_lt below) _ _

/-- A copy holds what was copied. -/
theorem copy_cell (pointer : Nat) (heap : Heap α) :
    (copy pointer heap).2.cell heap.next = heap.cell pointer :=
  Function.update_self ..

/-- A change leaves the other cells alone. -/
theorem update_of_ne {change : α → Except GoError α} {pointer other : Nat} (apart : other ≠ pointer)
    (heap : Heap α) : (update change pointer heap).2.cell other = heap.cell other := by
  unfold update
  cases change (heap.cell pointer) with
  | error err => rfl
  | ok value => exact Function.update_of_ne apart _ _

/-- A change takes no new cell. -/
theorem update_next (change : α → Except GoError α) (pointer : Nat) (heap : Heap α) :
    (update change pointer heap).2.next = heap.next := by
  unfold update
  cases change (heap.cell pointer) <;> rfl

/-- What is read depends on some cells alone. -/
def LocalTo {ω : Type} (cells : List Nat) (read : (Nat → α) → ω) : Prop :=
  ∀ cell other, (∀ pointer ∈ cells, cell pointer = other pointer) → read cell = read other

/-! ## Copies of structures with pointers -/

/-- A procedure copies a structure with pointers: the copy has new pointers, in order, and reads as
the original did. -/
def Copies {τ ω : Type} (pointersOf : τ → List Nat) (read : (Nat → α) → τ → ω)
    (prog : Proc (Heap α) τ) (original : τ) : Prop :=
  ∀ heap : Heap α, (∀ pointer ∈ pointersOf original, pointer < heap.next) →
    ∃ copied later count, prog heap = (.ok copied, later) ∧ Extends heap later ∧
      later.next = heap.next + count ∧ pointersOf copied = List.range' heap.next count ∧
      read later.cell copied = read heap.cell original

section Copies

variable {τ υ κ ω φ ψ : Type}

/-- A structure without pointers is returned as it is. -/
theorem Copies.unchanged {pointersOf : τ → List Nat} {read : (Nat → α) → τ → ω} {original : τ}
    (bare : pointersOf original = []) : Copies pointersOf read (pure original) original :=
  fun heap _ => ⟨original, heap, 0, rfl, .refl heap, rfl, bare, rfl⟩

/-- A pointer is copied. -/
theorem copy_copies (pointer : Nat) :
    Copies (fun pointer => [pointer]) (fun cell : Nat → α => cell) (copy pointer) pointer :=
  fun heap _ => ⟨heap.next, (copy pointer heap).2, 1, rfl, copy_extends pointer heap, rfl, rfl,
    copy_cell pointer heap⟩

/-- A structure around one that is copied. -/
theorem Copies.image {inner : τ → List Nat} {readInner : (Nat → α) → τ → ω}
    {prog : Proc (Heap α) τ} {original : τ} (copies : Copies inner readInner prog original)
    {outer : υ → List Nat} {readOuter : (Nat → α) → υ → φ} (build : τ → υ) (rebuild : ω → φ)
    (points : ∀ value, outer (build value) = inner value)
    (reads : ∀ cell value, readOuter cell (build value) = rebuild (readInner cell value)) :
    Copies outer readOuter (prog >>= fun value => pure (build value)) (build original) := by
  intro heap allocated
  rw [points] at allocated
  obtain ⟨copied, later, count, ran, grown, next, fresh, same⟩ := copies heap allocated
  refine ⟨build copied, later, count, ?_, grown, next, (points copied).trans fresh, ?_⟩
  · rw [Proc.bind_of_ok ran]
    rfl
  · rw [reads, reads, same]

/-- A structure around two that are copied one after the other. -/
theorem Copies.both {left : τ → List Nat} {readLeft : (Nat → α) → τ → ω}
    {prog : Proc (Heap α) τ} {first : τ} (copiesLeft : Copies left readLeft prog first)
    {right : υ → List Nat} {readRight : (Nat → α) → υ → φ} {prog' : Proc (Heap α) υ} {second : υ}
    (copiesRight : Copies right readRight prog' second)
    (localLeft : ∀ value, LocalTo (left value) fun cell => readLeft cell value)
    (localRight : ∀ value, LocalTo (right value) fun cell => readRight cell value)
    {outer : κ → List Nat} {readOuter : (Nat → α) → κ → ψ} (build : τ → υ → κ)
    (rebuild : ω → φ → ψ) (points : ∀ value value', outer (build value value') =
      left value ++ right value')
    (reads : ∀ cell value value', readOuter cell (build value value') =
      rebuild (readLeft cell value) (readRight cell value')) :
    Copies outer readOuter
      (prog >>= fun value => prog' >>= fun value' => pure (build value value'))
      (build first second) := by
  intro heap allocated
  rw [points] at allocated
  obtain ⟨copied, middle, count, ran, grown, next, fresh, same⟩ :=
    copiesLeft heap fun pointer found => allocated pointer (List.mem_append_left _ found)
  have below : ∀ pointer ∈ right second, pointer < heap.next :=
    fun pointer found => allocated pointer (List.mem_append_right _ found)
  obtain ⟨copied', later, count', ran', grown', next', fresh', same'⟩ :=
    copiesRight middle fun pointer found => Nat.lt_of_lt_of_le (below pointer found) grown.grows
  refine ⟨build copied copied', later, count + count', ?_, grown.trans grown', by omega, ?_, ?_⟩
  · rw [Proc.bind_of_ok ran, Proc.bind_of_ok ran']
    rfl
  · rw [points, fresh, fresh', next, List.range'_append_1]
  · -- The second copy leaves the cells of the first alone, and the first those of the second.
    have leftKept : readLeft later.cell copied = readLeft middle.cell copied := by
      refine localLeft copied _ _ fun pointer found => grown'.holds pointer ?_
      have bounds := List.mem_range'_1.mp (fresh ▸ found)
      omega
    have rightKept : readRight middle.cell second = readRight heap.cell second :=
      localRight second _ _ fun pointer found => grown.holds pointer (below pointer found)
    rw [reads, reads, leftKept, same, same', rightKept]

end Copies

/-! ## Changes through pointers -/

/-- A heap differs from another only in some cells. -/
structure WithinCells (written : List Nat) (heap later : Heap α) : Prop where
  /-- No new cell is taken. -/
  next : later.next = heap.next
  /-- The other cells hold what they held. -/
  frame : ∀ pointer, pointer ∉ written → later.cell pointer = heap.cell pointer

/-- Changes are within more cells. -/
theorem WithinCells.mono {written more : List Nat} {heap later : Heap α}
    (within : WithinCells written heap later) (among : written ⊆ more) :
    WithinCells more heap later :=
  ⟨within.next, fun pointer outside => within.frame pointer fun found => outside (among found)⟩

/-- Changes within some cells compose. -/
theorem WithinCells.trans {written : List Nat} {heap middle later : Heap α}
    (before : WithinCells written heap middle) (after : WithinCells written middle later) :
    WithinCells written heap later := by
  refine ⟨after.next.trans before.next, fun pointer outside => ?_⟩
  rw [after.frame pointer outside, before.frame pointer outside]

/-- Changes in new cells extend the heap. -/
theorem WithinCells.grown {written : List Nat} {heap middle later : Heap α} {count : Nat}
    (grown : Extends heap middle) (within : WithinCells written middle later)
    (fresh : written = List.range' heap.next count) : Extends heap later := by
  refine ⟨grown.grows.trans (Nat.le_of_eq within.next.symm), fun pointer below => ?_⟩
  have outside : pointer ∉ written := by
    intro listed
    have bounds := List.mem_range'_1.mp (fresh ▸ listed)
    omega
  rw [within.frame pointer outside, grown.holds pointer below]

/-- One run changes what is read through some pointers as a function says, and no other cell. -/
inductive Changed {ω : Type} (written : List Nat) (read : (Nat → α) → ω)
    (change : ω → Except GoError ω) (heap : Heap α) : Except GoError Unit × Heap α → Prop where
  /-- The function fails, and so does the procedure. -/
  | failed (err : GoError) (later : Heap α) (within : WithinCells written heap later)
      (fails : change (read heap.cell) = .error err) :
      Changed written read change heap (.error err, later)
  /-- What is read afterwards is what the function returns. -/
  | done (later : Heap α) (within : WithinCells written heap later)
      (computes : change (read heap.cell) = .ok (read later.cell)) :
      Changed written read change heap (.ok (), later)

/-- A procedure changes what is read through some pointers as a function says. -/
def Changes {ω : Type} (written : List Nat) (read : (Nat → α) → ω)
    (change : ω → Except GoError ω) (prog : Proc (Heap α) Unit) : Prop :=
  ∀ heap, Changed written read change heap (prog heap)

section Rules

variable {ω υ : Type} {written kept : List Nat} {read : (Nat → α) → ω} {other : (Nat → α) → υ}
  {change second : ω → Except GoError ω} {prog next : Proc (Heap α) Unit}

/-- What is read through other pointers stays as it is. -/
theorem WithinCells.read_eq {heap later : Heap α} (within : WithinCells written heap later)
    (reads : LocalTo kept other) (apart : written.Disjoint kept) :
    other later.cell = other heap.cell :=
  reads _ _ fun pointer listed => within.frame pointer fun found => apart found listed

/-- Nothing is done, where the function leaves what is read as it is. -/
theorem Changes.nothing (unchanged : ∀ cell, change (read cell) = .ok (read cell)) :
    Changes written read change (pure () : Proc (Heap α) Unit) :=
  fun heap => .done heap ⟨rfl, fun _ _ => rfl⟩ (unchanged heap.cell)

/-- One cell is changed through its pointer. -/
theorem update_changes (change : α → Except GoError α) (pointer : Nat) :
    Changes [pointer] (fun cell => cell pointer) change (update change pointer) := by
  intro heap
  have within : WithinCells [pointer] heap (update change pointer heap).2 :=
    ⟨update_next change pointer heap, fun other apart =>
      update_of_ne (List.ne_of_not_mem_cons apart) heap⟩
  unfold update at within ⊢
  cases changed : change (heap.cell pointer) with
  | error err =>
    rw [changed] at within
    exact .failed err heap within changed
  | ok value =>
    rw [changed] at within
    refine .done _ within ?_
    show change (heap.cell pointer) = .ok (Function.update heap.cell pointer value pointer)
    rw [changed, Function.update_self]

/-- A change is within more cells. -/
theorem Changes.mono {more : List Nat} (changes : Changes written read change prog)
    (among : written ⊆ more) : Changes more read change prog := by
  intro heap
  have ran := changes heap
  generalize prog heap = result at ran
  cases ran with
  | failed err later within fails => exact .failed err later (within.mono among) fails
  | done later within computes => exact .done later (within.mono among) computes

/-- Two changes in sequence. -/
theorem Changes.andThen (first : Changes written read change prog)
    (after : Changes written read second next) :
    Changes written read (fun value => change value >>= second) (prog >>= fun _ => next) := by
  intro heap
  have before := first heap
  generalize ran : prog heap = result at before
  cases before with
  | failed err later within fails =>
    rw [Proc.bind_of_error (congrArg Prod.fst ran), ran]
    refine .failed err later within ?_
    rw [fails]
    rfl
  | done middle within computes =>
    rw [Proc.bind_of_ok ran]
    have rest := after middle
    generalize next middle = result at rest
    cases rest with
    | failed err later within' fails =>
      refine .failed err later (within.trans within') ?_
      rw [computes]
      exact fails
    | done later within' computes' =>
      refine .done later (within.trans within') ?_
      rw [computes]
      exact computes'

/-- A structure that is made of what is read is changed with it. -/
theorem Changes.image {structured : (Nat → α) → υ} {changed : υ → Except GoError υ}
    (changes : Changes written read change prog) (build : ω → υ)
    (reads : ∀ cell, structured cell = build (read cell))
    (agrees : ∀ value, changed (build value) = (change value).map build) :
    Changes written structured changed prog := by
  intro heap
  have ran := changes heap
  generalize prog heap = result at ran
  cases ran with
  | failed err later within fails =>
    refine .failed err later within ?_
    rw [reads, agrees, fails]
    rfl
  | done later within computes =>
    refine .done later within ?_
    rw [reads, reads, agrees, computes]
    rfl

/-- A change beside what is read through other pointers. -/
theorem Changes.left (changes : Changes written read change prog) (reads : LocalTo kept other)
    (apart : written.Disjoint kept) :
    Changes (written ++ kept) (fun cell => (read cell, other cell))
      (fun both => (change both.1).map (·, both.2)) prog := by
  suffices beside : Changes written (fun cell => (read cell, other cell)) _ prog from
    beside.mono (List.subset_append_left _ _)
  intro heap
  have ran := changes heap
  generalize prog heap = result at ran
  cases ran with
  | failed err later within fails =>
    refine .failed err later within ?_
    rw [fails]
    rfl
  | done later within computes =>
    refine .done later within ?_
    rw [computes, within.read_eq reads apart]
    rfl

/-- What is read through other pointers, beside a change. -/
theorem Changes.right (changes : Changes written read change prog) (reads : LocalTo kept other)
    (apart : kept.Disjoint written) :
    Changes (kept ++ written) (fun cell => (other cell, read cell))
      (fun both => (change both.2).map (both.1, ·)) prog := by
  have beside := changes.left reads fun _ found listed => apart listed found
  refine (beside.image Prod.swap (fun _ => rfl) fun both => ?_).mono ?_
  · show (change both.1).map (both.2, ·) = _
    cases change both.1 <;> rfl
  · intro pointer found
    exact List.mem_append.mpr (List.mem_append.mp found).symm

end Rules

end Heap

end Cosign.Go
