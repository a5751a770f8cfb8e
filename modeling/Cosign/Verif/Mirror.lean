import Cosign.Spec.Growth
import Cosign.Verif.Inlining

/-!
# The configuration map mirrors the policies

What the reconciler wants for a policy is the entry of the inlined policy, or none after a failed
inlining or a finalize (`wants`). A call asks the API server for the difference that this makes
(`request_present`, `request_absent`); with an up-to-date lister the server then holds just that
(`entry_run`). So a run of calls refines a table that follows the events (`entry_runEvents`).
-/
namespace Cosign.Verif

open Cosign.Go Cosign.Encoding Cosign.Webhook
open Cosign.Encoding.Patch (PatchOp assign lookup_assign createPatch_assign)

/-- The entry that a call wants its policy to have. -/
def wants (p : WebhookPlatform) : Event → Option String
  | .reconcile lookups object =>
    match inlinePublicKeys p lookups object.policy object.heap with
    | (.ok ret, heap) =>
      some (marshal (convertClusterImagePolicyV1alpha1ToWebhook (ret.map heap.cell)))
    | (.error _, _) => none
  | .finalize _ => none

variable {p : WebhookPlatform}

/-- Where there is no map, a call asks for one with the wanted entry, if it wants one. -/
theorem request_absent (p : WebhookPlatform) (event : Event) :
    (event.action p (listed none)).request =
      (wants p event).map fun text => .create ⟨AList.singleton event.name text⟩ := by
  cases event with
  | finalize name => rfl
  | reconcile lookups object =>
    show (reconcileKind p lookups (listed none) object.policy object.heap).1.request = _
    unfold reconcileKind wants
    dsimp only
    rcases inlinePublicKeys p lookups object.policy object.heap with ⟨outcome, heap⟩
    cases outcome <;> rfl

/-- Where there is a map, a call asks for the difference that the wanted entry makes. -/
theorem request_present (p : WebhookPlatform) (event : Event) (cm : ConfigMap) :
    (event.action p (listed (some cm))).request =
      (sendPatch (Patch.createPatch cm.data
        (assign cm.data event.name (wants p event)))).request := by
  cases event with
  | finalize name => rfl
  | reconcile lookups object =>
    show (reconcileKind p lookups (listed (some cm)) object.policy object.heap).1.request = _
    unfold reconcileKind wants
    dsimp only
    rcases inlinePublicKeys p lookups object.policy object.heap with ⟨outcome, heap⟩
    cases outcome <;> rfl

theorem sendPatch_request (ops : List (PatchOp String String)) :
    (sendPatch ops).request = if ops = [] then none else some (.patch ops) := by
  unfold sendPatch
  cases ops <;> simp

/-- **One call** with an up-to-date lister gives its policy the wanted entry and leaves the others
alone. -/
theorem entry_run (p : WebhookPlatform) (cm : Option ConfigMap) (event : Event) :
    entry (event.run p cm) = Function.update (entry cm) event.name (wants p event) := by
  funext name
  rw [Function.update_apply]
  unfold Event.run
  cases cm with
  | none =>
    rw [request_absent]
    cases wants p event with
    | none => simp [entry]
    | some text =>
      show (AList.singleton event.name text : GoMap String).lookup name = _
      rw [← AList.insert_empty]
      exact lookup_assign ∅ event.name name (some text)
  | some cm =>
    have patch := createPatch_assign cm.data event.name (wants p event)
    rw [request_present, sendPatch_request]
    by_cases nothing : Patch.createPatch cm.data (assign cm.data event.name (wants p event)) = []
    · rw [if_pos nothing]
      show cm.data.lookup name = _
      split
      · rename_i same
        rw [same]
        exact patch.eq_nil_iff.mp nothing
      · rfl
    · obtain ⟨after, applied, holds⟩ := patch.applyPatch_snapshot
      rw [if_neg nothing]
      have stored : served (some cm) (.patch (Patch.createPatch cm.data
          (assign cm.data event.name (wants p event)))) = some ⟨after⟩ := by
        unfold served serve
        simp only [applied]
        rfl
      show entry (served (some cm) _) name = _
      rw [stored]
      exact (holds name).trans (lookup_assign ..)

/-- **A run of calls** refines the table that follows the events. -/
theorem entry_runEvents (p : WebhookPlatform) (cm : Option ConfigMap) (events : List Event) :
    entry (runEvents p cm events) = Spec.follow Event.name (wants p) (entry cm) events := by
  induction events generalizing cm with
  | nil => rfl
  | cons event rest ih =>
    show entry (runEvents p (event.run p cm) rest) = _
    rw [ih, entry_run]
    rfl

theorem request_eq_none {cm : Option ConfigMap} {event : Event}
    (held : entry cm event.name = wants p event) : (event.action p (listed cm)).request = none := by
  cases cm with
  | none =>
    rw [request_absent, ← held]
    rfl
  | some cm =>
    have patch := createPatch_assign cm.data event.name (wants p event)
    rw [request_present, sendPatch_request, if_pos (patch.eq_nil_iff.mpr held)]

/-- **The configuration map mirrors the policies.** From any map or none, after any calls with
up-to-date listers: a policy has the entry that its last call wants, and a repetition of that call
asks for nothing; the entry of a name that no call is about is as it was; and a reconcile leaves the
policy that it was given as it was. -/
theorem configMap_mirrors_policies (p : WebhookPlatform) (start : Option ConfigMap)
    (events : List Event) :
    (∀ before event after, events = before ++ event :: after →
      (∀ later ∈ after, later.name ≠ event.name) →
      entry (runEvents p start events) event.name = wants p event ∧
        (event.action p (listed (runEvents p start events))).request = none) ∧
    (∀ name, (∀ event ∈ events, event.name ≠ name) →
      entry (runEvents p start events) name = entry start name) ∧
    ∀ (lookups : Lookups) (object : Object) (lister : Except ListerError ConfigMap),
      object.policy.map (reconcileKind p lookups lister object.policy object.heap).2.cell =
        object.value := by
  refine ⟨fun before event after split last => ?_, fun name unseen => ?_,
    fun lookups object lister => ?_⟩
  · have held : entry (runEvents p start events) event.name = wants p event := by
      rw [entry_runEvents, split]
      exact Spec.follow_last before event after last
    exact ⟨held, request_eq_none held⟩
  · rw [entry_runEvents]
    exact Spec.follow_unseen events unseen
  · have ran := inlinePublicKeys_refines p lookups object
    have later : (reconcileKind p lookups lister object.policy object.heap).2 =
        (inlinePublicKeys p lookups object.policy object.heap).2 := by
      unfold reconcileKind
      rcases inlinePublicKeys p lookups object.policy object.heap with ⟨outcome, heap⟩
      cases outcome with
      | error err => rfl
      | ok ret =>
        cases lister with
        | ok existing => rfl
        | error err => cases err <;> rfl
    rw [later]
    generalize inlinePublicKeys p lookups object.policy object.heap = result at ran
    cases ran with
    | failed err later grown fails => exact value_of_extends grown
    | done ret later grown computes => exact value_of_extends grown

end Cosign.Verif
