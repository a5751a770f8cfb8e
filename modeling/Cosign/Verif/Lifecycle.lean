import Cosign.Verif.Interleaving
import Cosign.Webhook.Lifecycle
import Mathlib.Data.List.Dedup

/-!
# No entry outlives its policy

The configuration map has an entry for a policy only while the policy has the finalizer, whatever
users, other controllers and calls for other policies do in between, and wherever a call is cut off
(`no_orphans_iff`). A patch of finalizers is for the version that the lister has, so of the changes
that it has not seen only the first can be that of a call (`Tracked`). The one danger is a call that
finalizes by an answer for the configuration map from before the entry was written: the lister has
to know of the entry when the policy is finalized.
-/
namespace Cosign.Verif

open Cosign.Go Cosign.Encoding Cosign.Webhook

variable {p : WebhookPlatform} {name : V1alpha1.ObjectName}
  {sees : Except ListerError ConfigMap → Option ConfigMap → Prop} {world : World name}

/-- An entry is there only for a policy with the finalizer. -/
def NoOrphan (world : World name) : Prop :=
  entry world.configMap name.text ≠ none → HasFinalizer world.current

/-- A lister that answers knows of the entry of a policy. -/
def KnowsEntry (name : String) (lister : Except ListerError ConfigMap) (cm : Option ConfigMap) :
    Prop :=
  entry cm name ≠ none →
    (∃ seen, lister = .ok seen ∧ seen.data.lookup name ≠ none) ∨ ∃ err, lister = .error (.other err)

/-- No call runs, the lister is up to date, and there is no entry without a policy. -/
structure Settled (world : World name) : Prop where
  /-- No call runs. -/
  idle : world.running = none
  /-- The lister is up to date. -/
  observed : world.later = []
  /-- The policy has a version that was given to it. -/
  version : ∀ stored, world.view = some stored → stored.resourceVersion ≤ world.revision
  /-- There is no entry without a policy. -/
  noOrphan : NoOrphan world

/-! ## What the lister has not seen -/

/-- A policy that is there is being deleted. -/
def IsDeleting (resource : Option (Resource name)) : Prop :=
  ∀ stored, resource = some stored → stored.deleting = true

/-- A version of a policy, and one after it. -/
structure Before (earlier after : Option (Resource name)) : Prop where
  /-- Deletion is not undone. -/
  deleting : HasFinalizer earlier → HasFinalizer after → IsDeleting earlier → IsDeleting after
  /-- Versions have ascending numbers. -/
  version : ∀ old new, earlier = some old → after = some new →
    old.resourceVersion < new.resourceVersion

/-- What is known of the versions that the lister has not seen, whatever the call does that is
running. -/
structure Tracked (world : World name) : Prop where
  /-- There is no entry without a policy. -/
  noOrphan : NoOrphan world
  /-- The versions are in order. -/
  ordered : (world.view :: world.later).Pairwise Before
  /-- They were given by the API server. -/
  bound : ∀ seen ∈ world.view :: world.later, ∀ stored, seen = some stored →
    stored.resourceVersion ≤ world.revision
  /-- Only the first change can be about the finalizer. -/
  same : ∀ first ∈ world.later, ∀ second ∈ world.later, HasFinalizer first → HasFinalizer second
  /-- A policy that is being deleted does not get the finalizer. -/
  gained : ∀ seen ∈ world.later, HasFinalizer seen → IsDeleting world.view →
    HasFinalizer world.view
  /-- A policy that is not being deleted does not lose it. -/
  lost : ∀ seen ∈ world.later, HasFinalizer world.view → ¬IsDeleting world.view →
    HasFinalizer seen

/-- What a call that finalizes knows: versions with the finalizer are being deleted, and if its copy
of the policy does not have the finalizer, no version has it. -/
def Ending (world : World name) (resource : Resource name) : Prop :=
  ∀ seen ∈ world.view :: world.later, HasFinalizer seen →
    IsDeleting seen ∧ finalizerName ∈ resource.finalizers

/-- What a call knows in a phase. -/
def InPhase (world : World name) : Phase name → Prop
  | .setFinalizer resource => resource.deleting = false ∧
      ∀ seen ∈ world.later, HasFinalizer world.view → HasFinalizer seen
  | .reconcile _ => HasFinalizer world.current
  | .finalize resource => Ending world resource
  | .clearFinalizer resource event =>
    Ending world resource ∧ (event = none → entry world.configMap name.text = none)

/-- The invariant. -/
structure Managed (world : World name) : Prop where
  /-- What is known of the versions. -/
  tracked : Tracked world
  /-- What the call knows that is running. -/
  phase : ∀ phase, world.running = some phase → InPhase world phase

theorem current_eq (world : World name) :
    world.current = (world.view :: world.later).getLast (List.cons_ne_nil _ _) := by
  have last := List.getLast?_eq_some_getLast (List.cons_ne_nil world.view world.later)
  rw [List.getLast?_cons] at last
  exact Option.some.inj last

/-- The current version is the one that the lister has, or one that it has not seen. -/
theorem current_mem (world : World name) : world.current ∈ world.view :: world.later := by
  rw [current_eq]
  exact List.getLast_mem _

/-- If the lister is behind, the current version is one that it has not seen. -/
theorem current_mem_later (behind : world.later ≠ []) : world.current ∈ world.later := by
  unfold World.current
  rw [List.getLast?_eq_some_getLast behind]
  exact List.getLast_mem behind

@[simp] theorem current_store (world : World name) (next : Option (Resource name)) :
    (world.store next).current = next := by
  simp [World.current, World.store]

/-- What is current does not depend on what the lister has seen. -/
theorem current_observe {next : Option (Resource name)} {rest : List (Option (Resource name))}
    (behind : world.later = next :: rest) :
    World.current { world with view := next, later := rest } = world.current := by
  rw [current_eq, current_eq]
  simp only [behind, List.getLast_cons_cons]

theorem Tracked.before_current (tracked : Tracked world) {seen : Option (Resource name)}
    (member : seen ∈ world.view :: world.later) :
    seen = world.current ∨ Before seen world.current := by
  have ordered := tracked.ordered
  rw [current_eq]
  rw [← List.dropLast_append_getLast (List.cons_ne_nil world.view world.later)] at ordered member
  rcases List.mem_append.mp member with before | last
  · exact .inr ((List.pairwise_append.mp ordered).2.2 seen before _ List.mem_cons_self)
  · exact .inl (List.mem_singleton.mp last)

/-- The versions that the lister has not seen agree with the current one about the finalizer. -/
theorem Tracked.hasFinalizer_current (tracked : Tracked world) {seen : Option (Resource name)}
    (member : seen ∈ world.later) : HasFinalizer world.current ↔ HasFinalizer seen := by
  have last := current_mem_later (List.ne_nil_of_mem member)
  exact ⟨tracked.same _ last _ member, tracked.same _ member _ last⟩

theorem Tracked.store (tracked : Tracked world) {next : Option (Resource name)}
    (noOrphan : entry world.configMap name.text ≠ none → HasFinalizer next)
    (deleting : ∀ seen ∈ world.view :: world.later, HasFinalizer seen → HasFinalizer next →
      IsDeleting seen → IsDeleting next)
    (version : ∀ stored, next = some stored → stored.resourceVersion = world.revision + 1)
    (same : ∀ seen ∈ world.later, HasFinalizer next ↔ HasFinalizer seen)
    (gained : HasFinalizer next → IsDeleting world.view → HasFinalizer world.view)
    (lost : HasFinalizer world.view → ¬IsDeleting world.view → HasFinalizer next) :
    Tracked (world.store next) where
  noOrphan := by
    intro present
    rw [current_store]
    exact noOrphan present
  ordered := by
    refine List.pairwise_append.mpr ⟨tracked.ordered, List.pairwise_singleton _ _, ?_⟩
    intro seen member after here
    rw [List.mem_singleton.mp here]
    refine ⟨deleting seen member, fun old new found stored => ?_⟩
    have old_bound := tracked.bound seen member old found
    have new_version := version new stored
    omega
  bound := by
    intro seen member stored found
    show stored.resourceVersion ≤ world.revision + 1
    rcases List.mem_append.mp (show seen ∈ (world.view :: world.later) ++ [next] from member)
      with earlier | here
    · have := tracked.bound seen earlier stored found
      omega
    · rw [List.mem_singleton.mp here] at found
      exact Nat.le_of_eq (version stored found)
  same := by
    simp only [World.store, List.mem_append, List.mem_singleton]
    rintro first (first_in | rfl) second (second_in | rfl) has
    · exact tracked.same first first_in second second_in has
    · exact (same first first_in).mpr has
    · exact (same second second_in).mp has
    · exact has
  gained := by
    simp only [World.store, List.mem_append, List.mem_singleton]
    rintro seen (member | rfl)
    · exact tracked.gained seen member
    · exact gained
  lost := by
    simp only [World.store, List.mem_append, List.mem_singleton]
    rintro seen (member | rfl)
    · exact tracked.lost seen member
    · exact lost

/-- The change of somebody else is about a policy that is not newer than the current one. -/
theorem Tracked.foreign (tracked : Tracked world) {next : Option (Resource name)}
    (change : Foreign world.revision world.current next) : Tracked (world.store next) := by
  have current := List.mem_cons.mp (current_mem world)
  refine tracked.store ?_ ?_ change.version ?_ ?_ ?_
  · intro present
    exact change.finalizer.mpr (tracked.noOrphan present)
  · intro seen member had has deleting
    have here := change.finalizer.mp has
    apply change.deleting here
    rcases tracked.before_current member with rfl | before
    · exact deleting
    · exact before.deleting had here deleting
  · intro seen member
    exact change.finalizer.trans (tracked.hasFinalizer_current member)
  · intro has deleting
    have here := change.finalizer.mp has
    rcases current with same | member
    · exact same ▸ here
    · exact tracked.gained _ member here deleting
  · intro had alive
    apply change.finalizer.mpr
    rcases current with same | member
    · exact same.symm ▸ had
    · exact tracked.lost _ member had alive

theorem Tracked.observe (tracked : Tracked world) {next : Option (Resource name)}
    {rest : List (Option (Resource name))} (behind : world.later = next :: rest) :
    Tracked { world with view := next, later := rest } where
  noOrphan := by
    intro present
    rw [current_observe behind]
    exact tracked.noOrphan present
  ordered := behind ▸ (List.pairwise_cons.mp tracked.ordered).2
  bound := fun seen member => tracked.bound seen (behind ▸ List.mem_cons_of_mem _ member)
  same := by
    intro first first_in second second_in
    apply tracked.same <;> rw [behind] <;> exact List.mem_cons_of_mem _ (by assumption)
  gained := by
    intro seen member has _
    exact tracked.same seen (behind ▸ List.mem_cons_of_mem _ member) next
      (behind ▸ List.mem_cons_self) has
  lost := by
    intro seen member has _
    exact tracked.same next (behind ▸ List.mem_cons_self) seen
      (behind ▸ List.mem_cons_of_mem _ member) has

/-! ## What a call does to the finalizers -/

@[simp] theorem mem_sortedSet (names : List String) (text : String) :
    text ∈ sortedSet names ↔ text ∈ names := by
  simp [sortedSet, List.mem_mergeSort]

theorem not_mem_erase_sortedSet (names : List String) (text : String) :
    text ∉ (sortedSet names).erase text := by
  have once : (sortedSet names).Nodup :=
    (List.mergeSort_perm _ _).nodup_iff.mpr (List.nodup_dedup names)
  exact once.not_mem_erase

/-- What the API server takes a patch of finalizers for, and what it stores. -/
theorem patchFinalizers_ok {revision : Nat} {current next : Option (Resource name)}
    {patch : FinalizerPatch} (taken : patchFinalizers revision current patch = .ok next) :
    ∃ resource, current = some resource ∧ patch.resourceVersion = resource.resourceVersion ∧
      (resource.deleting = true → patch.finalizers ⊆ resource.finalizers) ∧
      (HasFinalizer next ↔ finalizerName ∈ patch.finalizers) ∧
      ∀ stored, next = some stored → stored.resourceVersion = revision + 1 := by
  cases current with
  | none => cases taken
  | some resource =>
    rw [patchFinalizers] at taken
    split_ifs at taken with differs added last <;> cases taken
    all_goals
      simp only [not_and, not_not] at differs added
      refine ⟨resource, rfl, differs, added, ?_, ?_⟩
    · simp [HasFinalizer, last.2]
    · exact fun stored gone => nomatch gone
    · simp [HasFinalizer]
    · rintro stored ⟨⟩
      rfl

/-- The API server has taken a patch of finalizers. -/
structure Patched (world : World name) (desired : List String)
    (next : Option (Resource name)) : Prop where
  /-- The lister was up to date. -/
  observed : world.later = []
  /-- The version is a new one. -/
  version : ∀ stored, next = some stored → stored.resourceVersion = world.revision + 1
  /-- The finalizer is there as desired. -/
  desired : HasFinalizer next ↔ finalizerName ∈ desired
  /-- It was added or taken away. -/
  changed : HasFinalizer next ↔ ¬HasFinalizer world.view
  /-- It is added only to a policy that is not being deleted. -/
  alive : HasFinalizer next → ¬IsDeleting world.view

theorem Tracked.patched (tracked : Tracked world) {existing : Resource name}
    (found : world.view = some existing) {patch : FinalizerPatch} {desired : List String}
    {next : Option (Resource name)} (version : patch.resourceVersion = existing.resourceVersion)
    (changed : finalizerName ∈ patch.finalizers ↔ finalizerName ∉ existing.finalizers)
    (asked : finalizerName ∈ patch.finalizers ↔ finalizerName ∈ desired)
    (taken : patchFinalizers world.revision world.current patch = .ok next) :
    Patched world desired next := by
  obtain ⟨resource, now, matched, kept, has, fresh⟩ := patchFinalizers_ok taken
  have observed : world.later = [] := by
    by_contra more
    have before := (List.pairwise_cons.mp tracked.ordered).1 _ (current_mem_later more)
    have smaller := before.version existing resource found now
    omega
  have viewed : world.view = some resource := by
    rw [← now, World.current, observed]
    rfl
  cases found.symm.trans viewed
  have had : HasFinalizer world.view ↔ finalizerName ∈ existing.finalizers := by
    simp [HasFinalizer, found]
  refine ⟨observed, fresh, has.trans asked, by rw [has, changed, had], fun there deleting => ?_⟩
  have added := has.mp there
  exact changed.mp added (kept (deleting existing found) added)

/-- What `updateFinalizersFiltered` asks for: nothing, if the finalizer is there as desired, and
otherwise that it is. -/
theorem updateFinalizersFiltered_some (existing : Resource name) (desired : List String) :
    (updateFinalizersFiltered (some existing) desired = .ok none ∧
      (finalizerName ∈ existing.finalizers ↔ finalizerName ∈ desired)) ∨
    ∃ patch, updateFinalizersFiltered (some existing) desired = .ok (some patch) ∧
      patch.resourceVersion = existing.resourceVersion ∧
      (finalizerName ∈ patch.finalizers ↔ finalizerName ∉ existing.finalizers) ∧
      (finalizerName ∈ patch.finalizers ↔ finalizerName ∈ desired) := by
  have erased := not_mem_erase_sortedSet existing.finalizers finalizerName
  by_cases asked : finalizerName ∈ desired <;> by_cases had : finalizerName ∈ existing.finalizers
  · exact .inl ⟨by simp only [updateFinalizersFiltered, asked, had, if_true], by simp [asked, had]⟩
  · refine .inr ⟨⟨existing.finalizers ++ [finalizerName], existing.resourceVersion⟩, ?_, rfl, ?_⟩
    · simp only [updateFinalizersFiltered, asked, had, if_true, if_false]
    · simp [asked, had]
  · refine .inr ⟨⟨(sortedSet existing.finalizers).erase finalizerName, existing.resourceVersion⟩,
      ?_, rfl, ?_⟩
    · simp only [updateFinalizersFiltered, asked, had, if_true, if_false]
    · simp [asked, had, erased]
  · exact .inl ⟨by simp only [updateFinalizersFiltered, asked, had, if_false], by simp [asked, had]⟩

/-- Nothing is done about the finalizers, and if the call goes on they are as desired, or the API
server takes a patch. -/
theorem Tracked.updateFinalizers (tracked : Tracked world) (resource : Resource name)
    (desired : List String) :
    (∃ updated, world.updateFinalizers resource desired = (world, updated) ∧
      (updated ≠ none → (HasFinalizer world.view ↔ finalizerName ∈ desired))) ∨
    ∃ next updated, world.updateFinalizers resource desired = (world.store next, some updated) ∧
      Patched world desired next := by
  unfold World.updateFinalizers
  cases found : world.view with
  | none => exact .inl ⟨none, rfl, fun goesOn => absurd rfl goesOn⟩
  | some existing =>
    rcases updateFinalizersFiltered_some existing desired with
      ⟨nothing, same⟩ | ⟨patch, filtered, version, changed, asked⟩
    · rw [nothing]
      exact .inl ⟨some resource, rfl, fun _ => by simpa [HasFinalizer] using same⟩
    · rw [filtered]
      dsimp only
      cases taken : patchFinalizers world.revision world.current patch with
      | error err => exact .inl ⟨none, rfl, fun goesOn => absurd rfl goesOn⟩
      | ok next => exact .inr ⟨next, _, rfl, tracked.patched found version changed asked taken⟩

/-- A patch that takes the finalizer away is for a policy that is being deleted and has no entry. -/
theorem Tracked.store_patched (tracked : Tracked world) {desired : List String}
    {next : Option (Resource name)} (patched : Patched world desired next)
    (cleared : HasFinalizer world.view → finalizerName ∉ desired →
      IsDeleting world.view ∧ entry world.configMap name.text = none) :
    Tracked (world.store next) := by
  have gone : ¬HasFinalizer next →
      IsDeleting world.view ∧ entry world.configMap name.text = none := by
    intro lacks
    have had : HasFinalizer world.view := by
      by_contra lacked
      exact lacks (patched.changed.mpr lacked)
    exact cleared had fun asked => lacks (patched.desired.mpr asked)
  refine tracked.store ?_ ?_ patched.version ?_ ?_ ?_
  · intro present
    by_contra lacks
    exact present (gone lacks).2
  · intro seen member had has
    rw [patched.observed, List.mem_singleton] at member
    exact absurd (member ▸ had) (patched.changed.mp has)
  · intro seen member
    rw [patched.observed] at member
    cases member
  · intro has deleting
    exact absurd deleting (patched.alive has)
  · intro _ alive
    by_contra lacks
    exact alive (gone lacks).1

/-! ## What a call does to the entry -/

/-- A patch that removes an entry removes it from every map that it applies to. -/
theorem lookup_of_removed {key : String} {snapshot current after : GoMap String}
    {ops : List (Patch.PatchOp String String)} (patch : Patch.PatchFor key snapshot none ops)
    (asks : ops ≠ []) (applied : Patch.applyPatch ops current = .ok after) :
    after.lookup key = none := by
  cases patch with
  | same held => exact absurd rfl asks
  | clear present only =>
    have empty := Patch.patched_removeMember current
    rw [Patch.patched, applied] at empty
    rw [show after = ∅ from empty]
    rfl
  | remove present more apart =>
    rw [Patch.applyPatch_single] at applied
    cases held : Patch.member current with
    | none => rw [held] at applied; cases applied
    | some entries =>
      rw [held, Patch.PatchOp.apply] at applied
      split_ifs at applied with there <;> cases applied
      exact AList.lookup_erase key entries

/-- Sending a patch fails and changes nothing, or the API server applies it. -/
theorem sendPatch_perform {ops : List (Patch.PatchOp String String)} (asks : ops ≠ [])
    (cm : Option ConfigMap) (lost : Option GoError) :
    (∃ err, (sendPatch ops).perform cm lost = (cm, some err)) ∨
    ∃ current after, cm = some current ∧ Patch.applyPatch ops current.data = .ok after ∧
      (sendPatch ops).perform cm lost = (some ⟨after⟩, none) := by
  have sent : sendPatch ops = ⟨some (.patch ops), id⟩ :=
    if_pos (List.length_pos_iff.mpr asks)
  rw [sent]
  cases lost with
  | some err => exact .inl ⟨err, rfl⟩
  | none =>
    cases cm with
    | none => exact .inl ⟨_, rfl⟩
    | some current =>
      have answer : serve (some current) (.patch ops) =
        (Patch.applyPatch ops current.data).map ConfigMap.mk := rfl
      cases applied : Patch.applyPatch ops current.data with
      | error err =>
        rw [applied] at answer
        exact .inl ⟨err, by simp only [Action.perform, answer, Except.map, id]⟩
      | ok after =>
        rw [applied] at answer
        exact .inr ⟨current, after, rfl, applied,
          by simp only [Action.perform, answer, Except.map, id]⟩

/-- Finalizing adds no entry, and if it succeeds for a lister that knows of the entry, the entry is
gone. -/
theorem finalizeKind_perform (lister : Except ListerError ConfigMap) (cipName : String)
    (cm : Option ConfigMap) (lost : Option GoError) :
    (entry ((finalizeKind lister cipName).perform cm lost).1 cipName ≠ none →
      entry cm cipName ≠ none) ∧
    (KnowsEntry cipName lister cm → ((finalizeKind lister cipName).perform cm lost).2 = none →
      entry ((finalizeKind lister cipName).perform cm lost).1 cipName = none) := by
  cases lister with
  | error err =>
    cases err with
    | other err => exact ⟨id, fun _ clean => nomatch clean⟩
    | notFound err =>
      refine ⟨id, fun knows _ => ?_⟩
      by_contra present
      rcases knows present with ⟨seen, answered, -⟩ | ⟨err, answered⟩ <;> cases answered
  | ok seen =>
    have patch := Patch.createPatch_erase seen.data cipName
    rw [show finalizeKind (.ok seen) cipName = sendPatch (createRemovePatch seen cipName) from rfl]
    by_cases nothing : createRemovePatch seen cipName = []
    · rw [nothing]
      refine ⟨id, fun knows _ => ?_⟩
      by_contra present
      rcases knows present with ⟨answer, answered, there⟩ | ⟨err, answered⟩ <;> cases answered
      exact there (patch.eq_nil_iff.mp nothing)
    · rcases sendPatch_perform nothing cm lost with
        ⟨err, performed⟩ | ⟨current, after, -, applied, performed⟩ <;> rw [performed]
      · exact ⟨id, fun _ clean => nomatch clean⟩
      · have gone : entry (some ⟨after⟩) cipName = none := lookup_of_removed patch nothing applied
        exact ⟨fun present => absurd gone present, fun _ _ => gone⟩

/-- A call for another policy adds no entry, whatever its lister has seen, and so is a step
of others. -/
theorem PendingCall.adds_nothing (call : PendingCall p) {current : Option ConfigMap} {text : String}
    (apart : text ≠ call.event.name) (present : entry (served current call.request) text ≠ none) :
    entry current text ≠ none := by
  cases seen : call.snapshot with
  | none =>
    obtain ⟨created, asks⟩ := call.request_unseen seen
    rwa [asks, entry_served_create apart] at present
  | some snapshot =>
    rw [call.request_seen seen] at present
    cases current with
    | none => exact present
    | some cm =>
      rw [served_patch] at present
      have patch := Patch.createPatch_assign snapshot.data call.event.name (wants p call.event)
      rcases patch.whole_or_keeps with ⟨-, emptied⟩ | ⟨-, kept⟩
      · exact absurd (emptied cm.data text apart) present
      · show cm.data.lookup text ≠ none
        rw [← kept cm.data text apart]
        exact present

/-! ## Steps and runs -/

/-- The configuration map gets no entry without a policy, and any call can run. -/
theorem Tracked.frame (tracked : Tracked world) (cm : Option ConfigMap)
    (running : Option (Phase name))
    (change : entry cm name.text ≠ none → HasFinalizer world.current) :
    Tracked { world with configMap := cm, running } :=
  ⟨change, tracked.ordered, tracked.bound, tracked.same, tracked.gained, tracked.lost⟩

/-- What is known of the versions does not depend on which call runs. -/
theorem Tracked.running (tracked : Tracked world) (running : Option (Phase name)) :
    Tracked { world with running } :=
  tracked.frame _ _ tracked.noOrphan

/-- What a call knows stays so when somebody else changes the policy. -/
theorem InPhase.foreign {phase : Phase name} (known : InPhase world phase)
    {next : Option (Resource name)} (change : Foreign world.revision world.current next) :
    InPhase (world.store next) phase := by
  have ends : ∀ resource, Ending world resource → Ending (world.store next) resource := by
    intro resource known seen member has
    rcases List.mem_append.mp (show seen ∈ (world.view :: world.later) ++ [next] from member)
      with earlier | here
    · exact known seen earlier has
    · rw [List.mem_singleton.mp here] at has ⊢
      have had := change.finalizer.mp has
      have before := known _ (current_mem world) had
      exact ⟨change.deleting had before.1, before.2⟩
  cases phase with
  | setFinalizer resource =>
    refine ⟨known.1, fun seen member has => ?_⟩
    rcases List.mem_append.mp member with earlier | here
    · exact known.2 seen earlier has
    · rw [List.mem_singleton.mp here, change.finalizer]
      rcases List.mem_cons.mp (current_mem world) with same | member
      · exact same.symm ▸ has
      · exact known.2 _ member has
  | reconcile resource =>
    show HasFinalizer (world.store next).current
    rw [current_store, change.finalizer]
    exact known
  | finalize resource => exact ends resource known
  | clearFinalizer resource event => exact ⟨ends resource known.1, known.2⟩

theorem InPhase.observe (tracked : Tracked world) {phase : Phase name}
    (known : InPhase world phase) {next : Option (Resource name)}
    {rest : List (Option (Resource name))} (behind : world.later = next :: rest) :
    InPhase { world with view := next, later := rest } phase := by
  have ends : ∀ resource, Ending world resource →
      Ending { world with view := next, later := rest } resource :=
    fun resource known seen member => known seen (behind ▸ List.mem_cons_of_mem _ member)
  cases phase with
  | setFinalizer resource =>
    refine ⟨known.1, fun seen member => ?_⟩
    exact tracked.same next (behind ▸ List.mem_cons_self) seen
      (behind ▸ List.mem_cons_of_mem _ member)
  | reconcile resource =>
    show HasFinalizer _
    rw [current_observe behind]
    exact known
  | finalize resource => exact ends resource known
  | clearFinalizer resource event => exact ⟨ends resource known.1, known.2⟩

/-- What a call knows when it starts with the policy of the lister. -/
theorem Tracked.firstPhase (tracked : Tracked world) {resource : Resource name}
    (found : world.view = some resource) : InPhase world (firstPhase resource) := by
  have view_deleting : IsDeleting world.view ↔ resource.deleting = true := by
    simp [IsDeleting, found]
  unfold Webhook.firstPhase reconcileMethodFor
  by_cases deleting : resource.deleting = true
  · rw [if_pos deleting]
    have ended := view_deleting.mpr deleting
    have has_view : ∀ seen ∈ world.view :: world.later, HasFinalizer seen →
        HasFinalizer world.view := by
      intro seen member has
      rcases List.mem_cons.mp member with rfl | later
      · exact has
      · exact tracked.gained seen later has ended
    intro seen member has
    have view_has := has_view seen member has
    obtain ⟨stored, same, there⟩ := view_has
    cases found.symm.trans same
    refine ⟨?_, there⟩
    rcases List.mem_cons.mp member with rfl | later
    · exact ended
    · exact ((List.pairwise_cons.mp tracked.ordered).1 seen later).deleting
        ⟨resource, found, there⟩ has ended
  · rw [if_neg deleting]
    refine ⟨by simpa using deleting, fun seen later has => ?_⟩
    exact tracked.lost seen later has (mt view_deleting.mp deleting)

theorem Managed.setFinalizer (managed : Managed world) {resource : Resource name}
    (phase : world.running = some (.setFinalizer resource)) :
    Managed (world.setFinalizer resource) := by
  obtain ⟨alive, lasts⟩ := managed.phase _ phase
  have asks : finalizerName ∈ setFinalizerIfFinalizer resource := by
    simp [setFinalizerIfFinalizer, alive]
  unfold World.setFinalizer
  rcases managed.tracked.updateFinalizers resource (setFinalizerIfFinalizer resource) with
    ⟨goesOn, updated, as_desired⟩ | ⟨next, goesOn, updated, patched⟩
  · rw [updated]
    refine ⟨managed.tracked.running _, fun other runs => ?_⟩
    cases goesOn with
    | none => cases runs
    | some copy =>
      cases runs
      have has := (as_desired (Option.some_ne_none copy)).mpr asks
      show HasFinalizer world.current
      rcases List.mem_cons.mp (current_mem world) with same | later
      · exact same.symm ▸ has
      · exact lasts _ later has
  · rw [updated]
    have tracked := managed.tracked.store_patched patched fun _ lacks => absurd asks lacks
    refine ⟨tracked.running _, fun other runs => ?_⟩
    cases runs
    show HasFinalizer (world.store next).current
    rw [current_store]
    exact patched.desired.mpr asks

/-- Clearing the finalizer keeps the invariant: if it was there, the entry is gone. -/
theorem Managed.clearFinalizer (managed : Managed world) {resource : Resource name}
    {event : Option GoError} (phase : world.running = some (.clearFinalizer resource event)) :
    Managed (world.clearFinalizer resource event) := by
  obtain ⟨ending, emptied⟩ := managed.phase _ phase
  unfold World.clearFinalizer
  rcases managed.tracked.updateFinalizers resource (Webhook.clearFinalizer resource event) with
    ⟨goesOn, updated, -⟩ | ⟨next, goesOn, updated, patched⟩
  · rw [updated]
    exact ⟨managed.tracked.running _, nofun⟩
  · rw [updated]
    refine ⟨(managed.tracked.store_patched patched fun had lacks => ?_).running _, nofun⟩
    obtain ⟨deleting, listed⟩ := ending _ List.mem_cons_self had
    cases event with
    | some err => exact absurd ((mem_sortedSet _ _).mpr listed) lacks
    | none => exact ⟨deleting, emptied rfl⟩

/-- **Every step keeps the invariant**, if the lister knows of the entry. -/
theorem Managed.step {next : World name} (managed : Managed world)
    (knows : ∀ lister cm, sees lister cm → KnowsEntry name.text lister cm)
    (step : WorldStep p name sees world next) : Managed next := by
  cases step with
  | foreign next change =>
    exact ⟨managed.tracked.foreign change, fun phase runs =>
      (managed.phase phase runs).foreign change⟩
  | others cm change =>
    refine ⟨managed.tracked.frame cm _ fun present => managed.tracked.noOrphan (change present),
      fun phase runs => ?_⟩
    have known := managed.phase phase runs
    cases phase with
    | clearFinalizer resource event =>
      refine ⟨known.1, fun clean => ?_⟩
      by_contra present
      exact change present (known.2 clean)
    | _ => exact known
  | observe next rest behind =>
    exact ⟨managed.tracked.observe behind, fun phase runs =>
      (managed.phase phase runs).observe managed.tracked behind⟩
  | start resource idle found =>
    refine ⟨managed.tracked.running _, fun phase runs => ?_⟩
    cases runs
    exact managed.tracked.firstPhase found
  | setFinalizer resource phase => exact managed.setFinalizer phase
  | reconcile resource lookups lister lost phase seen =>
    have has : HasFinalizer world.current := managed.phase _ phase
    exact ⟨managed.tracked.frame _ none fun _ => has, nofun⟩
  | finalize resource lister lost phase seen =>
    have ending : Ending world resource := managed.phase _ phase
    obtain ⟨added, removed⟩ := finalizeKind_perform lister name.text world.configMap lost
    refine ⟨managed.tracked.frame _ _ fun present => managed.tracked.noOrphan (added present),
      fun phase runs => ?_⟩
    cases runs
    exact ⟨ending, removed (knows _ _ seen)⟩
  | clearFinalizer resource event phase => exact managed.clearFinalizer phase
  | abandon => exact ⟨managed.tracked.running none, nofun⟩

theorem Settled.managed (settled : Settled world) : Managed world where
  tracked := by
    have alone : world.later = [] := settled.observed
    refine ⟨settled.noOrphan, ?_, ?_, ?_, ?_, ?_⟩ <;> rw [alone]
    · exact List.pairwise_singleton _ _
    · intro seen member stored found
      rw [List.mem_singleton.mp member] at found
      exact settled.version stored found
    all_goals exact nofun
  phase := by
    intro phase runs
    cases settled.idle.symm.trans runs

/-! ## A lister that does not know of the entry -/

/-- A policy without authorities that is being deleted. -/
def deletedPolicy (name : V1alpha1.ObjectName) : Resource name where
  finalizers := [finalizerName]
  deleting := true
  resourceVersion := 0
  object := ⟨⟨name, none, []⟩, ⟨fun _ => ⟨none, "", ""⟩, 0⟩, nofun⟩
  named := rfl

/-- Finalizing asks for nothing if the lister does not know of the entry. -/
theorem finalizeKind_unaware {lister : Except ListerError ConfigMap} {cipName : String}
    {cm : Option ConfigMap} (unaware : ¬KnowsEntry cipName lister cm) :
    entry cm cipName ≠ none ∧ (finalizeKind lister cipName).perform cm none = (cm, none) := by
  unfold KnowsEntry at unaware
  push Not at unaware
  obtain ⟨present, unseen, answers⟩ := unaware
  refine ⟨present, ?_⟩
  cases lister with
  | error err =>
    cases err with
    | other err => exact absurd rfl (answers err)
    | notFound err => rfl
  | ok seen =>
    have nothing : createRemovePatch seen cipName = [] :=
      (Patch.createPatch_erase seen.data cipName).eq_nil_iff.mpr (unseen seen rfl)
    show (sendPatch (createRemovePatch seen cipName)).perform cm none = _
    rw [nothing]
    rfl

/-- The only finalizer of the policy is cleared, and the API server removes the policy. -/
theorem clearFinalizer_deletedPolicy (world : World name)
    (view : world.view = some (deletedPolicy name)) (observed : world.later = []) :
    world.clearFinalizer (deletedPolicy name) none = { world.store none with running := none } := by
  have only : (sortedSet (deletedPolicy name).finalizers).erase finalizerName = [] := by
    simp [sortedSet, deletedPolicy]
  have current : world.current = some (deletedPolicy name) := by
    rw [World.current, observed]
    exact view
  rw [World.clearFinalizer, World.updateFinalizers, view, current, Webhook.clearFinalizer,
    updateFinalizersFiltered]
  simp only [only]
  rfl

/-- **No entry outlives its policy** exactly if the lister knows of the entry whenever it answers a
call for the policy. -/
theorem no_orphans_iff (p : WebhookPlatform) (name : V1alpha1.ObjectName)
    (sees : Except ListerError ConfigMap → Option ConfigMap → Prop) :
    (∀ start world : World name, Settled start → WorldRun p name sees start world →
        NoOrphan world) ↔
      ∀ lister cm, sees lister cm → KnowsEntry name.text lister cm := by
  constructor
  · -- A call finalizes a policy whose entry the lister does not know of.
    intro safe lister cm seen
    by_contra unaware
    obtain ⟨present, nothing⟩ := finalizeKind_unaware unaware
    let policy := deletedPolicy name
    let start : World name := ⟨some policy, [], 0, cm, none⟩
    let asked : World name := { start with running := some (.finalize policy) }
    let answered : World name := { start with running := some (.clearFinalizer policy none) }
    have settled : Settled start := by
      refine ⟨rfl, rfl, ?_, fun _ => ⟨_, rfl, List.mem_singleton_self _⟩⟩
      rintro stored ⟨⟩
      exact Nat.le_refl _
    have first : WorldStep p name sees start asked := .start start policy rfl rfl
    have second : WorldStep p name sees asked answered := by
      have step : WorldStep p name sees asked _ := .finalize asked policy lister none rfl seen
      rw [World.finalize, show asked.configMap = cm from rfl, nothing] at step
      exact step
    have third : WorldStep p name sees answered { answered.store none with running := none } := by
      rw [← clearFinalizer_deletedPolicy answered rfl rfl]
      exact .clearFinalizer answered policy none rfl
    have run := Relation.ReflTransGen.single first |>.tail second |>.tail third
    obtain ⟨stored, found, -⟩ := safe start _ settled run present
    cases found
  · intro knows start world settled run
    suffices managed : Managed world from managed.tracked.noOrphan
    induction run with
    | refl => exact settled.managed
    | tail _ step ih => exact ih.step knows step

end Cosign.Verif
