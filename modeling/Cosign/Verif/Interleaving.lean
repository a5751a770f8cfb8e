import Cosign.Verif.Admission
import Cosign.Verif.Mirror
import Mathlib.Logic.Relation

/-!
# Reconciles that run at the same time

Calls for different policies run in any order, each with a snapshot of the configuration map that
can be stale. A patch names the entry of its policy, unless the snapshot or its change is empty: it
then is about the data as a whole, and takes away the entries that were added since
(`disturbs_iff`). An entry that is no policy's keeps every snapshot from being so small
(`Anchored.not_disturbs`).
-/
namespace Cosign.Verif

open Cosign.Go Cosign.Encoding Cosign.Webhook
open Cosign.Encoding.Patch (Whole assign patched createPatch_assign)

/-- A call that has made its request and waits for the answer. -/
structure PendingCall (p : WebhookPlatform) where
  /-- The call. -/
  event : Event
  /-- The state of the API server that its lister has seen. -/
  snapshot : Option ConfigMap
  request : Request
  /-- The call makes this request. -/
  asks : (event.action p (listed snapshot)).request = some request

/-- The API server and the calls that wait for it. -/
structure Cluster (p : WebhookPlatform) where
  /-- What the API server holds. -/
  current : Option ConfigMap
  /-- What it held before. -/
  past : List (Option ConfigMap)
  pending : List (PendingCall p)

/-- One step of calls for some policies. -/
inductive ClusterStep (p : WebhookPlatform) (policies : String → Prop) :
    Cluster p → Cluster p → Prop where
  /-- A call makes its request, by what its lister has seen at some time. -/
  | compute (cluster : Cluster p) (call : PendingCall p) (about : policies call.event.name)
      (seen : call.snapshot ∈ cluster.current :: cluster.past) :
      ClusterStep p policies cluster { cluster with pending := call :: cluster.pending }
  /-- The API server takes the request of a call. -/
  | deliver (cluster : Cluster p) (call : PendingCall p) (before after : List (PendingCall p))
      (waiting : cluster.pending = before ++ call :: after) :
      ClusterStep p policies cluster ⟨served cluster.current call.request,
        cluster.current :: cluster.past, before ++ after⟩

/-- What calls for some policies can lead to. -/
def Reaches (p : WebhookPlatform) (policies : String → Prop) (start : Option ConfigMap)
    (cluster : Cluster p) : Prop :=
  Relation.ReflTransGen (ClusterStep p policies) ⟨start, [], []⟩ cluster

variable {p : WebhookPlatform}

/-- The request of a call changes the entry of another policy. -/
def Disturbs (call : PendingCall p) (current : Option ConfigMap) : Prop :=
  ∃ other, other ≠ call.event.name ∧
    entry (served current call.request) other ≠ entry current other

/-- The patch of a call is about the data as a whole: its snapshot has no entry of another policy,
and either has none at all and the call adds one, or has that of the policy and the call removes
it. -/
def WholeData (call : PendingCall p) : Prop :=
  ∃ cm, call.snapshot = some cm ∧ Whole call.event.name cm.data (wants p call.event)

theorem served_patch (cm : ConfigMap) (ops : List (Patch.PatchOp String String)) :
    served (some cm) (.patch ops) = some ⟨patched ops cm.data⟩ := by
  unfold served serve patched
  dsimp only
  cases Patch.applyPatch ops cm.data <;> rfl

/-- Creating a map changes no entry but that of its policy: it is refused where there is a map. -/
theorem entry_served_create {name text other : String} (apart : other ≠ name)
    (current : Option ConfigMap) :
    entry (served current (.create ⟨AList.singleton name text⟩)) other = entry current other := by
  cases current with
  | some cm => rfl
  | none =>
    show (AList.singleton name text : GoMap String).lookup other = none
    rw [← AList.insert_empty, AList.lookup_insert_ne apart]
    rfl

theorem PendingCall.request_unseen (call : PendingCall p) (unseen : call.snapshot = none) :
    ∃ text, call.request = .create ⟨AList.singleton call.event.name text⟩ := by
  have asks := call.asks
  rw [unseen, request_absent, Option.map_eq_some_iff] at asks
  obtain ⟨text, -, same⟩ := asks
  exact ⟨text, same.symm⟩

/-- A call that has seen a map patches it by what it wants of its own entry. -/
theorem PendingCall.request_seen (call : PendingCall p) {cm : ConfigMap}
    (seen : call.snapshot = some cm) :
    call.request = .patch (Patch.createPatch cm.data
      (assign cm.data call.event.name (wants p call.event))) := by
  have asks := call.asks
  rw [seen, request_present, sendPatch_request] at asks
  split at asks
  · cases asks
  · exact (Option.some.inj asks).symm

/-- Whether a patch is about the data as a whole depends on the map that the call has seen. -/
theorem wholeData_iff {call : PendingCall p} {cm : ConfigMap} (seen : call.snapshot = some cm) :
    WholeData call ↔ Whole call.event.name cm.data (wants p call.event) := by
  unfold WholeData
  rw [seen]
  constructor
  · rintro ⟨other, same, whole⟩
    cases same
    exact whole
  · exact fun whole => ⟨cm, rfl, whole⟩

/-- **A request disturbs others** exactly when its patch is about the data as a whole and the map
has an entry of another policy by then. -/
theorem disturbs_iff (call : PendingCall p) (current : Option ConfigMap) :
    Disturbs call current ↔
      WholeData call ∧ ∃ other, other ≠ call.event.name ∧ entry current other ≠ none := by
  cases seen : call.snapshot with
  | none =>
    obtain ⟨text, created⟩ := call.request_unseen seen
    constructor
    · intro disturbed
      obtain ⟨other, apart, changed⟩ := disturbed
      rw [created] at changed
      exact absurd (entry_served_create apart current) changed
    · rintro ⟨⟨cm, same, -⟩, -⟩
      cases seen.symm.trans same
  | some cm =>
    rw [wholeData_iff seen]
    unfold Disturbs
    rw [call.request_seen seen]
    cases current with
    | none =>
      -- A patch is refused where there is no map, and there is no entry to be disturbed.
      constructor
      · rintro ⟨other, -, changed⟩
        exact absurd rfl changed
      · rintro ⟨-, other, -, present⟩
        exact absurd rfl present
    | some now =>
      have patch := createPatch_assign cm.data call.event.name (wants p call.event)
      have disturbs := patch.disturbs_iff now.data
      simp only [← AList.lookup_isSome, Option.isSome_iff_ne_none] at disturbs
      rw [served_patch]
      exact disturbs

/-- Every state that a lister can have seen has an entry that no call is about. -/
structure Anchored (kept : String) (cluster : Cluster p) : Prop where
  states : ∀ state ∈ cluster.current :: cluster.past, entry state kept ≠ none
  /-- The snapshots of the calls have it, and the calls are about other names. -/
  calls : ∀ call ∈ cluster.pending, entry call.snapshot kept ≠ none ∧ call.event.name ≠ kept

/-- A call whose snapshot has an entry of another name disturbs nothing. -/
theorem Anchored.not_disturbs {kept : String} {cluster : Cluster p}
    (anchored : Anchored kept cluster)
    {call : PendingCall p} (waiting : call ∈ cluster.pending) : ¬Disturbs call cluster.current := by
  rw [disturbs_iff]
  rintro ⟨⟨cm, seen, only, -⟩, -⟩
  obtain ⟨held, apart⟩ := anchored.calls call waiting
  rw [seen] at held
  have present : kept ∈ cm.data := AList.lookup_isSome.mp (Option.isSome_iff_ne_none.mpr held)
  exact apart (only kept present).symm

theorem Anchored.step {kept : String} {policies : String → Prop} (foreign : ¬policies kept)
    {cluster next : Cluster p} (anchored : Anchored kept cluster)
    (step : ClusterStep p policies cluster next) : Anchored kept next := by
  cases step with
  | compute call about seen =>
    refine ⟨anchored.states, fun other listed => ?_⟩
    cases List.mem_cons.mp listed with
    | inl same =>
      subst same
      exact ⟨anchored.states _ seen, fun named => foreign (named ▸ about)⟩
    | inr older => exact anchored.calls other older
  | deliver call before after waiting =>
    have listed : call ∈ cluster.pending := by
      rw [waiting]
      exact List.mem_append_right _ List.mem_cons_self
    have apart : kept ≠ call.event.name := (anchored.calls call listed).2.symm
    have same : entry (served cluster.current call.request) kept = entry cluster.current kept := by
      by_contra changed
      exact anchored.not_disturbs listed ⟨kept, apart, changed⟩
    refine ⟨fun state seen => ?_, fun other others => anchored.calls other ?_⟩
    · cases List.mem_cons.mp seen with
      | inl now =>
        rw [now, same]
        exact anchored.states _ List.mem_cons_self
      | inr older => exact anchored.states state older
    · rw [waiting]
      cases List.mem_append.mp others with
      | inl early => exact List.mem_append_left _ early
      | inr late => exact List.mem_append_right _ (List.mem_cons_of_mem _ late)

theorem Reaches.anchored {kept : String} {policies : String → Prop} (foreign : ¬policies kept)
    {start : Option ConfigMap} (held : entry start kept ≠ none) {cluster : Cluster p}
    (reached : Reaches p policies start cluster) : Anchored kept cluster := by
  induction reached with
  | refl =>
    refine ⟨fun state seen => ?_, fun call listed => by cases listed⟩
    cases List.mem_singleton.mp seen
    exact held
  | tail _ step ih => exact ih.step foreign step

/-- **Concurrent updates.** From any state of the API server, in every interleaving of calls with
snapshots as stale as they may be: taking the request of a call changes the entry of another policy
exactly when the patch is about the data as a whole and there is such an entry by then. Where the
map started with an entry that is no policy's, no call ever does. -/
theorem concurrent_updates_iff (p : WebhookPlatform) (policies : String → Prop)
    (start : Option ConfigMap) (cluster : Cluster p) (reached : Reaches p policies start cluster)
    (call : PendingCall p) (waiting : call ∈ cluster.pending) :
    (Disturbs call cluster.current ↔ WholeData call ∧
      ∃ other, other ≠ call.event.name ∧ entry cluster.current other ≠ none) ∧
    ∀ kept, ¬policies kept → entry start kept ≠ none → ¬Disturbs call cluster.current :=
  ⟨disturbs_iff call cluster.current, fun _ foreign held =>
    (reached.anchored foreign held).not_disturbs waiting⟩

/-- A policy for every image with one keyless authority, in memory. -/
def keylessObject (name : V1alpha1.ObjectName) : Object where
  policy := ⟨name, some [⟨"*", ""⟩],
    [⟨none, some ⟨some ⟨"https://fulcio.sigstore.dev"⟩, none, none⟩, [], none⟩]⟩
  heap := ⟨fun _ => ⟨none, "", ""⟩, 0⟩
  allocated := by simp [pointers]

/-- Lookups that find nothing. -/
def noLookups : Lookups where
  track _ := none
  secret _ := .error ⟨"secret not found"⟩
  kms _ := .error ⟨"no kms provider found"⟩

/-- A reconcile of such a policy. -/
def keylessEvent (name : V1alpha1.ObjectName) : Event := .reconcile noLookups (keylessObject name)

/-- The entry of such a policy. -/
def keylessEntry (name : V1alpha1.ObjectName) : String :=
  marshal (convertClusterImagePolicyV1alpha1ToWebhook (keylessObject name).value)

/-- A reconcile of such a policy that has seen a map without data. -/
def emptyCall (name : V1alpha1.ObjectName) : PendingCall sampleWebhook where
  event := keylessEvent name
  snapshot := some ⟨∅⟩
  request := .patch [.addMember (AList.insert name.text (keylessEntry name) ∅)]
  asks := rfl

/-- The map as it is installed, with an entry that is no policy's. -/
def installed : ConfigMap := ⟨AList.singleton "_example" "EXAMPLE CONFIGURATION"⟩

/-- A reconcile of such a policy that has seen the map as it is installed. -/
def installedCall (name : V1alpha1.ObjectName) (fresh : name.text ≠ "_example") :
    PendingCall sampleWebhook where
  event := keylessEvent name
  snapshot := some installed
  request := .patch (Patch.createPatch installed.data
    (installed.data.insert name.text (keylessEntry name)))
  asks := by
    have absent : installed.data.lookup name.text = none :=
      AList.lookup_eq_none.mpr fun listed => fresh (List.mem_singleton.mp listed)
    have patch := Patch.createPatch_insert installed.data name.text (keylessEntry name)
    have operations : Patch.createPatch installed.data
        (installed.data.insert name.text (keylessEntry name)) ≠ [] := by
      intro nothing
      cases absent.symm.trans (patch.eq_nil_iff.mp nothing)
    show (sendPatch (Patch.createPatch installed.data
      (installed.data.insert name.text (keylessEntry name)))).request = _
    rw [sendPatch_request, if_neg operations]

/-- The name of a policy. -/
def teamA : V1alpha1.ObjectName := ⟨"team-a", by decide⟩

/-- The name of another policy. -/
def teamB : V1alpha1.ObjectName := ⟨"team-b", by decide⟩

/-- The names of these policies. -/
def IsTeam (name : String) : Prop := name = "team-a" ∨ name = "team-b"

instance (name : String) : Decidable (IsTeam name) := inferInstanceAs (Decidable (_ ∨ _))

/-- Two calls with the same snapshot, of which the API server has taken the first. -/
theorem reaches_second {policies : String → Prop} {start : Option ConfigMap}
    (first second : PendingCall p) (aboutFirst : policies first.event.name)
    (aboutSecond : policies second.event.name) (seenFirst : first.snapshot = start)
    (seenSecond : second.snapshot = start) :
    Reaches p policies start ⟨served start first.request, [start], [second]⟩ := by
  have one : ClusterStep p policies ⟨start, [], []⟩ ⟨start, [], [first]⟩ :=
    .compute _ first aboutFirst (seenFirst ▸ List.mem_cons_self)
  have two : ClusterStep p policies ⟨start, [], [first]⟩ ⟨start, [], [second, first]⟩ :=
    .compute _ second aboutSecond (seenSecond ▸ List.mem_cons_self)
  have three : ClusterStep p policies ⟨start, [], [second, first]⟩
      ⟨served start first.request, [start], [second]⟩ := .deliver _ first [second] [] rfl
  exact .tail (.tail (.tail .refl one) two) three

/-- Two policies are reconciled, both with a lister that has seen the map without data: the request
for the second takes away the entry of the first. -/
theorem stale_reconcile_loses_policy : ∃ cluster : Cluster sampleWebhook,
    Reaches sampleWebhook IsTeam (some ⟨∅⟩) cluster ∧ emptyCall teamB ∈ cluster.pending ∧
      entry cluster.current "team-a" = some (keylessEntry teamA) ∧
      entry (served cluster.current (emptyCall teamB).request) "team-a" = none :=
  ⟨_, reaches_second (emptyCall teamA) (emptyCall teamB) (.inl rfl) (.inr rfl) rfl rfl,
    List.mem_singleton_self _, rfl, rfl⟩

/-- With the map as it is installed, the request for the second leaves the entry of the first
alone. -/
theorem concurrent_updates_iff_installed : ∃ cluster : Cluster sampleWebhook,
    Reaches sampleWebhook IsTeam (some installed) cluster ∧
      installedCall teamB (by decide) ∈ cluster.pending ∧
      entry cluster.current "team-a" = some (keylessEntry teamA) ∧
      ¬Disturbs (installedCall teamB (by decide)) cluster.current := by
  have reached : Reaches sampleWebhook IsTeam (some installed) _ :=
    reaches_second (installedCall teamA (by decide)) (installedCall teamB (by decide)) (.inl rfl)
      (.inr rfl) rfl rfl
  have waiting := List.mem_singleton_self (installedCall teamB (by decide))
  refine ⟨_, reached, waiting, rfl, ?_⟩
  exact (concurrent_updates_iff _ _ _ _ reached _ waiting).2 "_example" (by decide) (by decide)

end Cosign.Verif
