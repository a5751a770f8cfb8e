import Cosign.Webhook.Reconciler
import Mathlib.Data.List.Sort
import Mathlib.Logic.Relation

/-!
# The life of an image policy

The generated reconciler puts a finalizer on a policy before `ReconcileKind` writes the entry of the
policy to the configuration map, and takes it away after `FinalizeKind` has removed the entry, so
that the API server keeps a policy that is deleted until then. It works with what a lister has seen,
so a patch of finalizers names the version of the policy that it is for, and the API server refuses
it for any other.

A call makes one request after another; users, other controllers and calls for other policies make
changes between any two of them. Calls for one policy do not overlap. A call can end at any point,
since the process can be stopped or an answer be lost.
-/
namespace Cosign.Webhook

open Cosign.Go Cosign.Encoding

/-- `finalizerName`. -/
def finalizerName : String := "clusterimagepolicies.cosigned.sigstore.dev"

/-- A policy with a given name, as the API server stores it. -/
structure Resource (name : V1alpha1.ObjectName) where
  finalizers : List String
  /-- Whether `DeletionTimestamp` is set. -/
  deleting : Bool
  resourceVersion : Nat
  /-- The policy. -/
  object : Object
  named : object.policy.name = name

variable {name : V1alpha1.ObjectName}

/-- `sets.NewString(names...).List()`: the names in order, each once. -/
def sortedSet (names : List String) : List String :=
  names.dedup.mergeSort fun first second => decide (first ≤ second)

/-- The method of the reconciler that a call runs. -/
inductive Method where
  /-- `DoReconcileKind`. -/
  | reconcileKind
  /-- `DoFinalizeKind`. -/
  | finalizeKind
  deriving DecidableEq, Repr

/-- `reconcileMethodFor`, for the leader: the reconciler is a `Finalizer` and no
`ReadOnlyInterface`. -/
def reconcileMethodFor (o : Resource name) : Method :=
  if o.deleting then .finalizeKind else .reconcileKind

/-- The merge patch of `updateFinalizersFiltered`. -/
structure FinalizerPatch where
  finalizers : List String
  resourceVersion : Nat

/-- `updateFinalizersFiltered` up to its request, by what the lister returns, for the finalizers
that are desired; there can be nothing to update. -/
def updateFinalizersFiltered (existing : Option (Resource name)) (desired : List String) :
    Except GoError (Option FinalizerPatch) :=
  match existing with
  | none => .error ⟨"clusterimagepolicy.cosigned.sigstore.dev not found"⟩
  | some existing =>
    if finalizerName ∈ desired then
      if finalizerName ∈ existing.finalizers then .ok none
      else .ok (some ⟨existing.finalizers ++ [finalizerName], existing.resourceVersion⟩)
    else if finalizerName ∈ existing.finalizers then
      .ok (some ⟨(sortedSet existing.finalizers).erase finalizerName, existing.resourceVersion⟩)
    else .ok none

/-- The finalizers that `setFinalizerIfFinalizer` desires. -/
def setFinalizerIfFinalizer (resource : Resource name) : List String :=
  if resource.deleting then sortedSet resource.finalizers
  else sortedSet (finalizerName :: resource.finalizers)

/-- The finalizers that `clearFinalizer` desires for a policy that is being deleted: the event of
the reconciler is an error or nil. -/
def clearFinalizer (resource : Resource name) (reconcileEvent : Option GoError) : List String :=
  match reconcileEvent with
  | some _ => sortedSet resource.finalizers
  | none => (sortedSet resource.finalizers).erase finalizerName

/-- How the API server answers a patch of finalizers: only for the version that it names, and
without new ones for a policy that is being deleted, which is removed with its last finalizer. -/
def patchFinalizers (revision : Nat) (current : Option (Resource name)) (patch : FinalizerPatch) :
    Except GoError (Option (Resource name)) :=
  match current with
  | none => .error ⟨"clusterimagepolicies.cosigned.sigstore.dev not found"⟩
  | some resource =>
    if patch.resourceVersion ≠ resource.resourceVersion then
      .error ⟨"the object has been modified"⟩
    else if resource.deleting ∧ ¬ patch.finalizers ⊆ resource.finalizers then
      .error ⟨"no new finalizers can be added if the object is being deleted"⟩
    else if resource.deleting ∧ patch.finalizers = [] then .ok none
    else .ok (some { resource with
      finalizers := patch.finalizers, resourceVersion := revision + 1 })

/-- How far a call has come, with its copy of the policy. -/
inductive Phase (name : V1alpha1.ObjectName) where
  /-- Before `setFinalizerIfFinalizer`. -/
  | setFinalizer (resource : Resource name)
  /-- Before `ReconcileKind`. -/
  | reconcile (resource : Resource name)
  /-- Before `FinalizeKind`. -/
  | finalize (resource : Resource name)
  /-- Before `clearFinalizer`, with the event of `FinalizeKind`. -/
  | clearFinalizer (resource : Resource name) (reconcileEvent : Option GoError)

/-- The API server and the controller, as far as one policy is concerned. -/
structure World (name : V1alpha1.ObjectName) where
  /-- The policy as the lister has it. -/
  view : Option (Resource name)
  /-- What became of the policy since, oldest first. -/
  later : List (Option (Resource name))
  /-- The last version that the API server has given to the policy. -/
  revision : Nat
  /-- The configuration map. -/
  configMap : Option ConfigMap
  /-- The call that is running. -/
  running : Option (Phase name)

/-- The policy as the API server has it. -/
def World.current (world : World name) : Option (Resource name) :=
  world.later.getLast?.getD world.view

/-- The API server stores the policy. -/
def World.store (world : World name) (next : Option (Resource name)) : World name :=
  { world with later := world.later ++ [next], revision := world.revision + 1 }

/-- The policy has the finalizer. -/
def HasFinalizer (resource : Option (Resource name)) : Prop :=
  ∃ stored, resource = some stored ∧ finalizerName ∈ stored.finalizers

/-- A change by somebody else: it leaves the finalizer as it is, and a policy with it that is being
deleted stays so. A new version has a new number. -/
structure Foreign (revision : Nat) (current next : Option (Resource name)) : Prop where
  /-- The finalizer is neither added nor taken away. -/
  finalizer : HasFinalizer next ↔ HasFinalizer current
  /-- Deletion is not undone. -/
  deleting : HasFinalizer current → (∀ stored, current = some stored → stored.deleting = true) →
    ∀ stored, next = some stored → stored.deleting = true
  /-- The version is a new one. -/
  version : ∀ stored, next = some stored → stored.resourceVersion = revision + 1

/-- The world after a patch of finalizers for what the lister has, if there is something to
update, and the policy that the call goes on with: its copy, or what the API server has stored. -/
def World.updateFinalizers (world : World name) (resource : Resource name)
    (desired : List String) : World name × Option (Resource name) :=
  match updateFinalizersFiltered world.view desired with
  | .error _ => (world, none)
  | .ok none => (world, some resource)
  | .ok (some patch) =>
    match patchFinalizers world.revision world.current patch with
    | .error _ => (world, none)
    | .ok next => (world.store next, some (next.getD resource))

/-- What the API server makes of the request of an action, if it gets it, and the event that the
call returns. -/
def Action.perform (action : Action) (cm : Option ConfigMap) (lost : Option GoError) :
    Option ConfigMap × Option GoError :=
  match action.request, lost with
  | none, _ => (cm, action.returns none)
  | some _, some err => (cm, action.returns (some err))
  | some request, none =>
    match serve cm request with
    | .ok after => (some after, action.returns none)
    | .error err => (cm, action.returns (some err))

/-- The first phase of a call that has found the policy. -/
def firstPhase (resource : Resource name) : Phase name :=
  match reconcileMethodFor resource with
  | .reconcileKind => .setFinalizer resource
  | .finalizeKind => .finalize resource

/-- The finalizer is set, and the call goes on to `ReconcileKind` or returns an error. -/
def World.setFinalizer (world : World name) (resource : Resource name) : World name :=
  let (next, updated) := world.updateFinalizers resource (setFinalizerIfFinalizer resource)
  { next with running := updated.map .reconcile }

/-- `ReconcileKind`, after which the call returns its event. -/
def World.reconcile (world : World name) (action : Action) (lost : Option GoError) : World name :=
  { world with configMap := (action.perform world.configMap lost).1, running := none }

/-- `FinalizeKind`, after which the call goes on with its event. -/
def World.finalize (world : World name) (resource : Resource name) (action : Action)
    (lost : Option GoError) : World name :=
  let (cm, event) := action.perform world.configMap lost
  { world with configMap := cm, running := some (.clearFinalizer resource event) }

/-- The finalizer is cleared, and the call returns. -/
def World.clearFinalizer (world : World name) (resource : Resource name)
    (event : Option GoError) : World name :=
  { (world.updateFinalizers resource (Webhook.clearFinalizer resource event)).1 with
    running := none }

/-- One step, by what the lister can answer for the configuration map that the API server has. -/
inductive WorldStep (p : WebhookPlatform) (name : V1alpha1.ObjectName)
    (sees : Except ListerError ConfigMap → Option ConfigMap → Prop) :
    World name → World name → Prop where
  /-- Somebody else changes the policy. -/
  | foreign (world : World name) (next : Option (Resource name))
      (change : Foreign world.revision world.current next) :
      WorldStep p name sees world (world.store next)
  /-- Somebody else changes the configuration map, and does not add an entry for the policy. -/
  | others (world : World name) (cm : Option ConfigMap)
      (change : entry cm name.text ≠ none → entry world.configMap name.text ≠ none) :
      WorldStep p name sees world { world with configMap := cm }
  /-- The lister goes on. -/
  | observe (world : World name) (next : Option (Resource name))
      (rest : List (Option (Resource name))) (behind : world.later = next :: rest) :
      WorldStep p name sees world { world with view := next, later := rest }
  /-- `Reconcile` finds the policy in the lister. -/
  | start (world : World name) (resource : Resource name) (idle : world.running = none)
      (found : world.view = some resource) :
      WorldStep p name sees world { world with running := some (firstPhase resource) }
  | setFinalizer (world : World name) (resource : Resource name)
      (phase : world.running = some (.setFinalizer resource)) :
      WorldStep p name sees world (world.setFinalizer resource)
  /-- `ReconcileKind`. -/
  | reconcile (world : World name) (resource : Resource name) (lookups : Lookups)
      (lister : Except ListerError ConfigMap) (lost : Option GoError)
      (phase : world.running = some (.reconcile resource)) (seen : sees lister world.configMap) :
      WorldStep p name sees world
        (world.reconcile ((Event.reconcile lookups resource.object).action p lister) lost)
  /-- `FinalizeKind`. -/
  | finalize (world : World name) (resource : Resource name)
      (lister : Except ListerError ConfigMap) (lost : Option GoError)
      (phase : world.running = some (.finalize resource)) (seen : sees lister world.configMap) :
      WorldStep p name sees world
        (world.finalize resource (finalizeKind lister name.text) lost)
  | clearFinalizer (world : World name) (resource : Resource name) (event : Option GoError)
      (phase : world.running = some (.clearFinalizer resource event)) :
      WorldStep p name sees world (world.clearFinalizer resource event)
  /-- A call ends before its time. -/
  | abandon (world : World name) : WorldStep p name sees world { world with running := none }

/-- What steps can lead to. -/
def WorldRun (p : WebhookPlatform) (name : V1alpha1.ObjectName)
    (sees : Except ListerError ConfigMap → Option ConfigMap → Prop) :
    World name → World name → Prop :=
  Relation.ReflTransGen (WorldStep p name sees)

end Cosign.Webhook
