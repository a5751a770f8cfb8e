import Cosign.Remote.Tree

/-!
# Walks as sequences of steps

A walk over an entity is the sequence of its steps: manifests that are read, calls of the function,
and the stop at an unknown media type. Where a walk leads and what it ensures follows from the steps
by the rules for loops.
-/
namespace Cosign.Verif

open Cosign.Go Cosign.Remote
open Cosign.Go.Proc

variable {σ : Type} (read : Proc σ Unit) (fn : EntityTree → Proc σ Unit)

/-- A step of a walk. -/
inductive WalkStep where
  /-- A manifest is read. -/
  | read
  /-- The function is called on an entity. -/
  | visit (part : EntityTree)
  /-- The walk stops at a media type it does not know. -/
  | unknown (mediaType : String)

/-- What is done in a step. -/
def WalkStep.run : WalkStep → Proc σ Unit
  | .read => read
  | .visit part => fn part
  | .unknown mediaType => .fail (unknownMimeType mediaType)

mutual

/-- The steps of a walk over an entity. -/
def walkSteps : EntityTree → List WalkStep
  | .image digest => [.visit (.image digest)]
  | .index digest manifests =>
    .visit (.index digest manifests) :: .read :: manifestSteps manifests
  | .other _ mediaType => [.unknown mediaType]

/-- The steps of a walk over manifests. -/
def manifestSteps : List EntityTree → List WalkStep
  | [] => []
  | .other _ mediaType :: rest => .unknown mediaType :: manifestSteps rest
  | manifest :: rest => .read :: (walkSteps manifest ++ manifestSteps rest)

end

mutual

theorem walkEntity_eq : (tree : EntityTree) →
    walkEntity read fn tree = (walkSteps tree).forM (WalkStep.run read fn)
  | .image digest => by
    simp only [walkEntity, walkSteps, List.forM_eq_forM, List.forM_cons, List.forM_nil,
      WalkStep.run, bind_pure_unit]
  | .index digest manifests => by
    simp only [walkEntity, walkSteps, List.forM_eq_forM, List.forM_cons, WalkStep.run,
      walkManifests_eq manifests]
  | .other digest mediaType => rfl

theorem walkManifests_eq : (manifests : List EntityTree) →
    walkManifests read fn manifests = (manifestSteps manifests).forM (WalkStep.run read fn)
  | [] => by
    simp only [walkManifests, manifestSteps, List.forM_eq_forM, List.forM_nil]
  | .other digest mediaType :: rest => by
    simp only [walkManifests, manifestSteps, List.forM_eq_forM, List.forM_cons, WalkStep.run]
    rfl
  | .image digest :: rest => by
    simp only [walkManifests, manifestSteps, List.forM_eq_forM, List.forM_cons, List.forM_append,
      WalkStep.run, walkEntity_eq (.image digest), walkManifests_eq rest]
  | .index digest manifests :: rest => by
    simp only [walkManifests, manifestSteps, List.forM_eq_forM, List.forM_cons, List.forM_append,
      WalkStep.run, walkEntity_eq (.index digest manifests), walkManifests_eq rest]

end

mutual

theorem visit_mem_walkSteps : (tree : EntityTree) → (part : EntityTree) →
    (.visit part ∈ walkSteps tree ↔ part ∈ tree.parts)
  | .image digest, part => by
    simp only [walkSteps, EntityTree.parts, List.mem_singleton, WalkStep.visit.injEq]
  | .index digest manifests, part => by
    simp only [walkSteps, EntityTree.parts, List.mem_cons, WalkStep.visit.injEq, reduceCtorEq,
      false_or, visit_mem_manifestSteps manifests part]
  | .other digest mediaType, part => by
    simp only [walkSteps, EntityTree.parts, List.mem_singleton, reduceCtorEq, List.not_mem_nil]

theorem visit_mem_manifestSteps : (manifests : List EntityTree) → (part : EntityTree) →
    (.visit part ∈ manifestSteps manifests ↔ part ∈ EntityTree.partsOf manifests)
  | [], part => by
    simp only [manifestSteps, EntityTree.partsOf, List.not_mem_nil]
  | .other digest mediaType :: rest, part => by
    simp only [manifestSteps, EntityTree.partsOf, EntityTree.parts, List.mem_cons, reduceCtorEq,
      false_or, List.nil_append, visit_mem_manifestSteps rest part]
  | .image digest :: rest, part => by
    simp only [manifestSteps, EntityTree.partsOf, List.mem_cons, reduceCtorEq, false_or,
      List.mem_append, visit_mem_walkSteps (.image digest) part, visit_mem_manifestSteps rest part]
  | .index digest manifests :: rest, part => by
    simp only [manifestSteps, EntityTree.partsOf, List.mem_cons, reduceCtorEq, false_or,
      List.mem_append, visit_mem_walkSteps (.index digest manifests) part,
      visit_mem_manifestSteps rest part]

end

variable {read fn} {rel : σ → σ → Prop} [Std.Refl rel] {tree : EntityTree}

/-- The steps of a walk lead where reading and the function lead. -/
theorem step_within (reads : Within rel read) (each : ∀ part ∈ tree.parts, Within rel (fn part))
    {step : WalkStep} (inside : step ∈ walkSteps tree) : Within rel (step.run read fn) := by
  cases step with
  | read => exact reads
  | visit part => exact each part ((visit_mem_walkSteps tree part).mp inside)
  | unknown mediaType => exact within_fail _

variable [IsTrans σ rel]

theorem walkEntity_within (reads : Within rel read)
    (each : ∀ part ∈ tree.parts, Within rel (fn part)) :
    Within rel (walkEntity read fn tree) := by
  rw [walkEntity_eq]
  exact within_forM fun step inside => step_within reads each inside

/-- After a walk that returned, everything in the entity has what the function ensures, if later
calls keep it. -/
theorem walkEntity_ensures {post : EntityTree → σ → Prop}
    (stable : ∀ part ∈ tree.parts, ∀ before after, rel before after → post part before →
      post part after)
    (reads : Within rel read) (each : ∀ part ∈ tree.parts, Within rel (fn part) ∧
      Ensures (fun _ => True) (fn part) fun _ => post part) :
    Ensures (fun _ => True) (walkEntity read fn tree) fun _ state =>
      ∀ part ∈ tree.parts, post part state := by
  rw [walkEntity_eq]
  intro state _ value final ran part inside
  let holds : WalkStep → σ → Prop := fun step state => ∀ part, step = .visit part → post part state
  have kept : ∀ step ∈ walkSteps tree, ∀ before after, rel before after → holds step before →
      holds step after := by
    intro step member before after led held part same
    subst same
    have inside := (visit_mem_walkSteps tree part).mp member
    exact stable part inside before after led (held part rfl)
  have rounds : ∀ step ∈ walkSteps tree, Within rel (step.run read fn) ∧
      Ensures (fun _ => True) (step.run read fn) fun _ => holds step := by
    intro step member
    refine ⟨step_within reads (fun part inside => (each part inside).1) member, ?_⟩
    intro before _ value after ran part same
    subst same
    exact (each part ((visit_mem_walkSteps tree part).mp member)).2 before trivial value after ran
  have done := ensures_forM kept rounds state trivial value final ran
  exact done (.visit part) ((visit_mem_walkSteps tree part).mpr inside) part rfl

end Cosign.Verif
