import Cosign.Verif.Sources
import Cosign.Webhook.Resolver

/-!
# What is validated is what was resolved

The mutating webhook puts a digest in the place of a tag, and a digest is never resolved again
(`resolveAll_pinned`). The validating webhook admits digests only. So an object that is admitted
after any number of mutations has exactly the images that were resolved once, and these were
verified (`admitted_images_pinned`).
-/
namespace Cosign.Verif

open Cosign.Go Cosign.Encoding Cosign.Spec Cosign.Webhook
open Cosign.Verify (Keychain Registry)

variable {p : WebhookPlatform} {registry : TagRegistry p} {registries : List (TagRegistry p)}
  {ctx : RequestContext} {kc : Keychain} {c : Container} {object : Workload}

/-! ## One container -/

/-- The image is named by digest. -/
def Pinned (p : WebhookPlatform) (c : Container) : Prop :=
  ∃ name, p.parseReference c.image = .ok (.digest name)

/-- The image of a container is a tag for which a registry has a digest, and becomes that digest. -/
def Resolves (p : WebhookPlatform) (kc : Keychain) (registry : TagRegistry p)
    (c resolved : Container) : Prop :=
  ∃ tag, p.parseReference c.image = .ok (.tag tag) ∧
    registry.digestOf kc tag = .ok resolved.image

theorem resolveContainer_cases (registry : TagRegistry p) (ctx : RequestContext) (kc : Keychain)
    (c : Container) :
    resolveContainer p registry ctx kc c = c ∨
      Resolves p kc registry c (resolveContainer p registry ctx kc c) := by
  unfold resolveContainer
  cases parsed : p.parseReference c.image with
  | error err => exact .inl rfl
  | ok ref =>
    dsimp only
    split
    · cases ref with
      | digest name => exact .inl rfl
      | tag tag =>
        cases found : registry.digestOf kc tag with
        | error err =>
          simp only [resolveDigest, found]
          exact .inl trivial
        | ok digest =>
          simp only [resolveDigest, found]
          exact .inr ⟨tag, parsed, found⟩
    · exact .inl rfl

theorem Resolves.pinned {resolved : Container} (resolves : Resolves p kc registry c resolved) :
    Pinned p resolved := by
  obtain ⟨tag, -, found⟩ := resolves
  exact ⟨resolved.image, registry.digests kc tag _ found⟩

/-- A container after calls of the webhook, one after another. -/
def resolveEach (p : WebhookPlatform) (ctx : RequestContext) (kc : Keychain)
    (registries : List (TagRegistry p)) (c : Container) : Container :=
  registries.foldl (fun c registry => resolveContainer p registry ctx kc c) c

/-- Any number of calls leaves a container as it is, or resolves its tag by the registry of one of
them. -/
theorem resolveEach_cases (ctx : RequestContext) (kc : Keychain) (registries : List (TagRegistry p))
    (c : Container) :
    resolveEach p ctx kc registries c = c ∨
      ∃ registry ∈ registries, Resolves p kc registry c (resolveEach p ctx kc registries c) := by
  induction registries generalizing c with
  | nil => exact .inl rfl
  | cons registry rest ih =>
    show resolveEach p ctx kc rest (resolveContainer p registry ctx kc c) = c ∨
      ∃ first ∈ registry :: rest, Resolves p kc first c
        (resolveEach p ctx kc rest (resolveContainer p registry ctx kc c))
    rcases resolveContainer_cases registry ctx kc c with same | resolves
    · rw [same]
      rcases ih c with kept | ⟨other, member, resolves⟩
      · exact .inl kept
      · exact .inr ⟨other, List.mem_cons_of_mem _ member, resolves⟩
    · -- The first registry that has a digest decides: the digest is not resolved again.
      have stays : resolveEach p ctx kc rest (resolveContainer p registry ctx kc c) =
          resolveContainer p registry ctx kc c := by
        rcases ih (resolveContainer p registry ctx kc c) with kept | ⟨other, -, again⟩
        · exact kept
        · obtain ⟨name, pinned⟩ := resolves.pinned
          obtain ⟨tag, parsed, -⟩ := again
          cases pinned.symm.trans parsed
      rw [stays]
      exact .inr ⟨registry, List.mem_cons_self, resolves⟩

/-! ## Objects -/

/-- The options for the keychain of an object. -/
def keychainOptions (object : Workload) : KeychainOptions :=
  ⟨object.namespaceName, object.spec.serviceAccountName, object.spec.imagePullSecrets⟩

/-- An object that is not being deleted, with other images. -/
def withImages (object : Workload) (resolve : Container → Container) : Workload :=
  { object with
    spec := { object.spec with
      initContainers := object.spec.initContainers.map resolve
      containers := object.spec.containers.map resolve } }

/-- A call changes nothing of an object but the images of its containers. -/
theorem resolveWorkload_eq (alive : object.deleting = false)
    (chained : p.newKeychain (keychainOptions object) = .ok kc) :
    resolveWorkload p registry ctx object =
      withImages object (resolveContainer p registry ctx kc) := by
  have chained' : p.newKeychain ⟨object.namespaceName, object.spec.serviceAccountName,
    object.spec.imagePullSecrets⟩ = .ok kc := chained
  have checked : ¬ object.deleting = true := by
    rw [alive]
    exact Bool.false_ne_true
  unfold resolveWorkload resolvePodSpec
  rw [if_neg checked, chained']
  rfl

/-- A call changes neither whether an object is being deleted nor the options for its keychain. -/
theorem resolveWorkload_frame (registry : TagRegistry p) (ctx : RequestContext)
    (object : Workload) :
    (resolveWorkload p registry ctx object).deleting = object.deleting ∧
      keychainOptions (resolveWorkload p registry ctx object) = keychainOptions object := by
  unfold resolveWorkload resolvePodSpec
  split
  · exact ⟨rfl, rfl⟩
  · split <;> exact ⟨rfl, rfl⟩

theorem resolveAll_frame (registries : List (TagRegistry p)) (ctx : RequestContext)
    (object : Workload) :
    (resolveAll p ctx registries object).deleting = object.deleting ∧
      keychainOptions (resolveAll p ctx registries object) = keychainOptions object := by
  induction registries generalizing object with
  | nil => exact ⟨rfl, rfl⟩
  | cons registry rest ih =>
    obtain ⟨deleting, options⟩ := resolveWorkload_frame registry ctx object
    obtain ⟨deleting', options'⟩ := ih (resolveWorkload p registry ctx object)
    exact ⟨deleting'.trans deleting, options'.trans options⟩

/-- Any number of calls changes nothing of an object but the images of its containers. -/
theorem resolveAll_eq (ctx : RequestContext) (registries : List (TagRegistry p))
    (alive : object.deleting = false)
    (chained : p.newKeychain (keychainOptions object) = .ok kc) :
    resolveAll p ctx registries object = withImages object (resolveEach p ctx kc registries) := by
  induction registries generalizing object with
  | nil =>
    have unchanged : resolveEach p ctx kc [] = id := rfl
    show object = withImages object (resolveEach p ctx kc [])
    rw [unchanged, withImages, List.map_id, List.map_id]
  | cons registry rest ih =>
    show resolveAll p ctx rest (resolveWorkload p registry ctx object) = _
    rw [resolveWorkload_eq alive chained]
    have others : resolveAll p ctx rest (withImages object (resolveContainer p registry ctx kc)) =
        withImages (withImages object (resolveContainer p registry ctx kc))
          (resolveEach p ctx kc rest) := ih alive chained
    rw [others]
    simp only [withImages, List.map_map]
    rfl

/-- An object whose images are named by digest is left as it is. -/
theorem resolveAll_pinned (registries : List (TagRegistry p)) (alive : object.deleting = false)
    (chained : p.newKeychain (keychainOptions object) = .ok kc)
    (pinned : ∀ c ∈ object.spec.initContainers ++ object.spec.containers, Pinned p c) :
    resolveAll p ctx registries object = object := by
  have stays : ∀ c ∈ object.spec.initContainers ++ object.spec.containers,
      resolveEach p ctx kc registries c = c := by
    intro c member
    rcases resolveEach_cases ctx kc registries c with same | ⟨registry, -, tag, parsed, -⟩
    · exact same
    · obtain ⟨name, named⟩ := pinned c member
      cases named.symm.trans parsed
  have unchanged : ∀ cs : List Container,
      (∀ c ∈ cs, c ∈ object.spec.initContainers ++ object.spec.containers) →
        cs.map (resolveEach p ctx kc registries) = cs := by
    intro cs inside
    calc cs.map (resolveEach p ctx kc registries)
        = cs.map id := List.map_congr_left fun c member => stays c (inside c member)
      _ = cs := List.map_id cs
  rw [resolveAll_eq ctx registries alive chained, withImages,
    unchanged _ fun c member => List.mem_append_left _ member,
    unchanged _ fun c member => List.mem_append_right _ member]

theorem pinned_of_checked {oracle : SignatureOracle} {config : Option Config}
    {keys : List Oci.PublicKey} {field : String} {i : Nat}
    (checked : checkContainer p oracle config kc keys field c i = .ok []) : Pinned p c := by
  unfold checkContainer at checked
  cases parsed : p.parseReference c.image with
  | error err =>
    rw [parsed] at checked
    cases checked
  | ok ref =>
    rw [parsed] at checked
    cases ref with
    | tag name => cases checked
    | digest name => exact ⟨name, parsed⟩

/-- **What is admitted is what was resolved.** An object goes through any number of calls of the
mutating webhook, between which the tags of the registry can move, and is then admitted. Every image
of it is the digest that it was written with or that the registry had for its tag in one of these
calls; further calls change nothing; and if the policies can be checked, the registry has signatures
for these images that verify. -/
theorem admitted_images_pinned {registry : Registry} {path : String} {config : ImagePolicyConfig}
    {secret : Except GoError (GoMap Bytes)} (alive : object.deleting = false)
    (admitted : validateWorkload p (registryOracle p.toPlatform registry) path
      (some ⟨some config⟩) secret (resolveAll p ctx registries object) = .ok []) :
    (∃ kc, p.newKeychain (keychainOptions object) = .ok kc ∧
      List.Forall₂ (fun c resolved => Pinned p resolved ∧
          (resolved = c ∨ ∃ registry ∈ registries, Resolves p kc registry c resolved))
        (object.spec.initContainers ++ object.spec.containers)
        ((resolveAll p ctx registries object).spec.initContainers ++
          (resolveAll p ctx registries object).spec.containers)) ∧
    (∀ later, resolveAll p ctx later (resolveAll p ctx registries object) =
      resolveAll p ctx registries object) ∧
    ((∀ c ∈ (resolveAll p ctx registries object).spec.initContainers ++
          (resolveAll p ctx registries object).spec.containers,
        PoliciesCheckable p config c.image) →
      PodVerified p (SignedInRegistry p.toPlatform registry) config secret
        (resolveAll p ctx registries object).spec (keychainOptions object)) := by
  obtain ⟨deleting, options⟩ := resolveAll_frame registries ctx object
  have alive' : (resolveAll p ctx registries object).deleting = false := deleting.trans alive
  obtain ⟨kc, data, keys, chained, -, -, checked⟩ :=
    validatePodSpec_eq_nil ((validateWorkload_eq_nil alive').mp admitted)
  have chained' : p.newKeychain (keychainOptions (resolveAll p ctx registries object)) = .ok kc :=
    chained
  have pinned : ∀ c ∈ (resolveAll p ctx registries object).spec.initContainers ++
      (resolveAll p ctx registries object).spec.containers, Pinned p c := by
    intro c member
    obtain ⟨field, i, passed⟩ := checked c member
    exact pinned_of_checked passed
  refine ⟨⟨kc, options ▸ chained', ?_⟩, fun later => resolveAll_pinned later alive' chained' pinned,
    fun checkable => ?_⟩
  · have resolved := resolveAll_eq ctx registries alive (options ▸ chained')
    rw [resolved] at pinned ⊢
    show List.Forall₂ _ _ (List.map _ _ ++ List.map _ _)
    rw [← List.map_append, List.forall₂_map_right_iff, List.forall₂_same]
    intro c member
    refine ⟨pinned _ ?_, resolveEach_cases ctx kc registries c⟩
    show _ ∈ List.map _ _ ++ List.map _ _
    rw [← List.map_append]
    exact List.mem_map_of_mem member
  · rw [← options]
    exact admitted_workload_signed alive' admitted checkable

/-- A registry that has a digest for every tag. -/
def sampleTags : TagRegistry keyWebhook where
  digestOf _ _ := .ok "registry.local/app@sha256:00"
  digests _ _ _ same := by
    cases same
    decide +kernel

/-- An object whose image is a tag. -/
def taggedPod : Workload := ⟨false, "default", ⟨[], [⟨"registry.local/app:1"⟩], "default", []⟩⟩

/-- A policy for every image with a key and two sources. -/
def keyPolicy : ImagePolicyConfig :=
  ⟨AList.singleton "key" ⟨[⟨"*", ""⟩], [twoSourcesAuthority "b" "a"]⟩⟩

/-- The tag is resolved and its digest is admitted; no further call changes it. -/
theorem admitted_images_pinned_tag :
    validateWorkload keyWebhook sourceOracle "spec" (some ⟨some keyPolicy⟩) (.ok ∅)
        (resolveAll keyWebhook ⟨true, false⟩ [sampleTags] taggedPod) = .ok [] ∧
      ∀ later, resolveAll keyWebhook ⟨true, false⟩ later
          (resolveAll keyWebhook ⟨true, false⟩ [sampleTags] taggedPod) =
        resolveAll keyWebhook ⟨true, false⟩ [sampleTags] taggedPod := by
  have admitted : validateWorkload keyWebhook sourceOracle "spec" (some ⟨some keyPolicy⟩) (.ok ∅)
      (resolveAll keyWebhook ⟨true, false⟩ [sampleTags] taggedPod) = .ok [] := by
    decide +kernel
  exact ⟨admitted, (admitted_images_pinned rfl admitted).2.1⟩

end Cosign.Verif
