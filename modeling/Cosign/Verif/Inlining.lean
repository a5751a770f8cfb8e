import Cosign.Webhook.Reconciler

/-!
# Inlining keys does to a copy what it should do to a policy

`inlinePublicKeys` works through pointers; without them it is a function on policies (`inlined`).
The copy has pointers of its own, which are new and all different, so that a change through one
changes one key of the copy and nothing else (`inlinePublicKeys_refines`): the policy that was
passed in is as it was.
-/
namespace Cosign.Verif

open Cosign.Go Cosign.Encoding Cosign.Webhook
open Cosign.Go.Heap (Extends)

section Spec

variable (p : WebhookPlatform) (lookups : Lookups)

/-- A keyless authority with its certificate inlined. -/
def inlinedKeyless (keyless : V1alpha1.KeylessRef V1alpha1.KeyRef) :
    Except GoError (V1alpha1.KeylessRef V1alpha1.KeyRef) := do
  let caCert ← keyless.caCert.mapM (inlineAndTrackSecret p lookups)
  .ok { keyless with caCert }

/-- An authority with its keys inlined. -/
def inlinedAuthority (authority : V1alpha1.Authority V1alpha1.KeyRef) :
    Except GoError (V1alpha1.Authority V1alpha1.KeyRef) := do
  let key ← authority.key.mapM (inlineAndTrackSecret p lookups)
  let keyless ← authority.keyless.mapM (inlinedKeyless p lookups)
  let key ← key.mapM (inlineKMS lookups)
  .ok { authority with key, keyless }

/-- A policy with its keys inlined. -/
def inlined (policy : V1alpha1.ClusterImagePolicy V1alpha1.KeyRef) :
    Except GoError (V1alpha1.ClusterImagePolicy V1alpha1.KeyRef) := do
  let authorities ← policy.authorities.mapM (inlinedAuthority p lookups)
  .ok { policy with authorities }

end Spec

/-! ## What is read through the pointers of a policy -/

/-- The pointer of a keyless authority, if there is one. -/
def keylessPointers (keyless : Option (V1alpha1.KeylessRef Nat)) : List Nat :=
  (keyless.bind V1alpha1.KeylessRef.caCert).toList

/-- What a keyless authority reads through its pointer. -/
def readKeyless (cell : Nat → V1alpha1.KeyRef) (keyless : Option (V1alpha1.KeylessRef Nat)) :
    Option (V1alpha1.KeylessRef V1alpha1.KeyRef) :=
  keyless.map (V1alpha1.KeylessRef.map cell)

/-- The pointers of some authorities, in the order in which they are copied. -/
def allPointers (authorities : List (V1alpha1.Authority Nat)) : List Nat :=
  authorities.flatMap pointers

theorem key_local (key : Option Nat) :
    Heap.LocalTo key.toList fun cell : Nat → V1alpha1.KeyRef => key.map cell :=
  fun _ _ same => Option.map_congr fun pointer found => same pointer (Option.mem_toList.mpr found)

/-- What a keyless authority reads depends on the cell of its pointer alone. -/
theorem keyless_local (keyless : Option (V1alpha1.KeylessRef Nat)) :
    Heap.LocalTo (keylessPointers keyless) fun cell => readKeyless cell keyless := by
  intro cell other same
  cases keyless with
  | none => rfl
  | some keyless =>
    have certificate : keyless.caCert.map cell = keyless.caCert.map other :=
      key_local keyless.caCert cell other same
    simp [readKeyless, V1alpha1.KeylessRef.map, certificate]

/-- What an authority reads depends on the cells of its pointers alone. -/
theorem authority_local (authority : V1alpha1.Authority Nat) :
    Heap.LocalTo (pointers authority) fun cell : Nat → V1alpha1.KeyRef => authority.map cell := by
  intro cell other same
  have keys : authority.key.map cell = authority.key.map other :=
    key_local _ _ _ fun pointer found => same pointer (List.mem_append_left _ found)
  have certificates : readKeyless cell authority.keyless = readKeyless other authority.keyless :=
    keyless_local _ _ _ fun pointer found => same pointer (List.mem_append_right _ found)
  show V1alpha1.Authority.mk (authority.key.map cell) (readKeyless cell authority.keyless) _ _ =
    V1alpha1.Authority.mk _ _ _ _
  rw [keys, certificates]
  rfl

/-- What authorities read through their pointers depends on their cells alone. -/
theorem authorities_local (authorities : List (V1alpha1.Authority Nat)) :
    Heap.LocalTo (allPointers authorities) fun cell : Nat → V1alpha1.KeyRef =>
      authorities.map (V1alpha1.Authority.map cell) := by
  intro cell other same
  refine List.map_congr_left fun authority listed =>
    authority_local authority cell other fun pointer found => ?_
  exact same pointer (List.mem_flatMap.mpr ⟨authority, listed, found⟩)

/-! ## Copies -/

theorem deepCopyKey_copies (key : Option Nat) :
    Heap.Copies Option.toList (fun (cell : Nat → V1alpha1.KeyRef) key => key.map cell)
      (deepCopyKey key) key := by
  cases key with
  | none => exact Heap.Copies.unchanged rfl
  | some pointer => exact (Heap.copy_copies pointer).image some some (fun _ => rfl) fun _ _ => rfl

theorem deepCopyKeyless_copies (keyless : Option (V1alpha1.KeylessRef Nat)) :
    Heap.Copies keylessPointers readKeyless (deepCopyKeyless keyless) keyless := by
  cases keyless with
  | none => exact Heap.Copies.unchanged rfl
  | some keyless =>
    exact (deepCopyKey_copies keyless.caCert).image
      (fun caCert => some (V1alpha1.KeylessRef.mk keyless.url keyless.identities caCert))
      (fun caCert => some (V1alpha1.KeylessRef.mk keyless.url keyless.identities caCert))
      (fun _ => rfl) fun _ _ => rfl

theorem deepCopyAuthority_copies (authority : V1alpha1.Authority Nat) :
    Heap.Copies pointers V1alpha1.Authority.map (deepCopyAuthority authority) authority :=
  (deepCopyKey_copies authority.key).both (deepCopyKeyless_copies authority.keyless) key_local
    keyless_local
    (fun key keyless => V1alpha1.Authority.mk key keyless authority.sources authority.ctlog)
    (fun key keyless => V1alpha1.Authority.mk key keyless authority.sources authority.ctlog)
    (fun _ _ => rfl) fun _ _ _ => rfl

theorem deepCopyAuthorities_copies (authorities : List (V1alpha1.Authority Nat)) :
    Heap.Copies allPointers (fun cell => List.map (V1alpha1.Authority.map cell))
      (authorities.mapM deepCopyAuthority) authorities := by
  induction authorities with
  | nil => exact Heap.Copies.unchanged rfl
  | cons first rest ih =>
    rw [List.mapM_cons]
    exact (deepCopyAuthority_copies first).both ih authority_local authorities_local List.cons
      List.cons (fun _ _ => rfl) fun _ _ _ => rfl

/-! ## Changes -/

section Changes

variable (p : WebhookPlatform) (lookups : Lookups)

theorem through_changes (change : V1alpha1.KeyRef → Except GoError V1alpha1.KeyRef)
    (key : Option Nat) :
    Heap.Changes key.toList (fun cell => key.map cell) (Option.mapM change)
      (through change key) := by
  cases key with
  | none => exact Heap.Changes.nothing fun _ => rfl
  | some pointer =>
    exact (Heap.update_changes change pointer).image some (fun _ => rfl) fun _ => rfl

/-- The certificate of a keyless authority is changed through its pointer. -/
theorem keyless_changes (keyless : Option (V1alpha1.KeylessRef Nat)) :
    Heap.Changes (keylessPointers keyless) (fun cell => readKeyless cell keyless)
      (Option.mapM (inlinedKeyless p lookups))
      (through (inlineAndTrackSecret p lookups) (keyless.bind V1alpha1.KeylessRef.caCert)) := by
  cases keyless with
  | none => exact Heap.Changes.nothing fun _ => rfl
  | some keyless =>
    refine (through_changes (inlineAndTrackSecret p lookups) keyless.caCert).image
      (fun caCert => some ⟨keyless.url, keyless.identities, caCert⟩) (fun _ => rfl) fun caCert => ?_
    show some <$> (caCert.mapM (inlineAndTrackSecret p lookups) >>= _) = _
    cases caCert.mapM (inlineAndTrackSecret p lookups) <;> rfl

/-- One round of the loop inlines the keys of an authority whose pointers differ. -/
theorem inlineAuthority_changes (authority : V1alpha1.Authority Nat)
    (distinct : (pointers authority).Nodup) :
    Heap.Changes (pointers authority) (fun cell => authority.map cell) (inlinedAuthority p lookups)
      (inlineAuthority p lookups authority) := by
  have apart : authority.key.toList.Disjoint (keylessPointers authority.keyless) :=
    List.disjoint_of_nodup_append distinct
  have secret := (through_changes (inlineAndTrackSecret p lookups) authority.key).left
    (keyless_local authority.keyless) apart
  have certificate := (keyless_changes p lookups authority.keyless).right
    (key_local authority.key) apart
  have kms := (through_changes (inlineKMS lookups) authority.key).left
    (keyless_local authority.keyless) apart
  refine (secret.andThen (certificate.andThen kms)).image
    (fun both => ⟨both.1, both.2, authority.sources, authority.ctlog⟩) (fun _ => rfl) fun both => ?_
  unfold inlinedAuthority
  dsimp only
  cases both.1.mapM (inlineAndTrackSecret p lookups) with
  | error err => rfl
  | ok key =>
    dsimp only [bind, Except.bind, Except.map]
    cases both.2.mapM (inlinedKeyless p lookups) with
    | error err => rfl
    | ok keyless =>
      dsimp only
      cases key.mapM (inlineKMS lookups) <;> rfl

/-- The loop inlines the keys of authorities whose pointers differ. -/
theorem inlineAuthorities_changes (authorities : List (V1alpha1.Authority Nat))
    (distinct : (allPointers authorities).Nodup) :
    Heap.Changes (allPointers authorities)
      (fun cell => authorities.map (V1alpha1.Authority.map cell))
      (List.mapM (inlinedAuthority p lookups))
      (authorities.forM (inlineAuthority p lookups)) := by
  induction authorities with
  | nil => exact Heap.Changes.nothing fun _ => rfl
  | cons first rest ih =>
    obtain ⟨firstDistinct, restDistinct, -⟩ := List.nodup_append.mp distinct
    have apart : (pointers first).Disjoint (allPointers rest) :=
      List.disjoint_of_nodup_append distinct
    have head := (inlineAuthority_changes p lookups first firstDistinct).left
      (authorities_local rest) apart
    have tail := (ih restDistinct).right (authority_local first) apart
    refine (head.andThen tail).image (fun both => both.1 :: both.2) (fun _ => rfl) fun both => ?_
    rw [List.mapM_cons]
    cases inlinedAuthority p lookups both.1 with
    | error err => rfl
    | ok authority =>
      dsimp only [bind, Except.bind, Except.map]
      cases both.2.mapM (inlinedAuthority p lookups) <;> rfl

end Changes

/-! ## The whole call -/

/-- What a call of `inlinePublicKeys` can do: it computes the function on policies, and the cells
that were there before are as they were. -/
inductive InlineRun (p : WebhookPlatform) (lookups : Lookups) (object : Object) :
    Except GoError (V1alpha1.ClusterImagePolicy Nat) × KeyHeap → Prop where
  /-- A key cannot be had. -/
  | failed (err : GoError) (later : KeyHeap) (grown : Extends object.heap later)
      (fails : inlined p lookups object.value = .error err) :
      InlineRun p lookups object (.error err, later)
  /-- Every key is inline. -/
  | done (ret : V1alpha1.ClusterImagePolicy Nat) (later : KeyHeap)
      (grown : Extends object.heap later)
      (computes : inlined p lookups object.value = .ok (ret.map later.cell)) :
      InlineRun p lookups object (.ok ret, later)

/-- **Inlining through pointers computes the function on policies** and leaves the policy that was
passed in alone. -/
theorem inlinePublicKeys_refines (p : WebhookPlatform) (lookups : Lookups) (object : Object) :
    InlineRun p lookups object (inlinePublicKeys p lookups object.policy object.heap) := by
  have allocated : ∀ pointer ∈ allPointers object.policy.authorities,
      pointer < object.heap.next := by
    intro pointer found
    obtain ⟨authority, listed, here⟩ := List.mem_flatMap.mp found
    exact object.allocated authority listed pointer here
  obtain ⟨authorities, middle, count, copied, grown, -, fresh, reads⟩ :=
    deepCopyAuthorities_copies object.policy.authorities object.heap allocated
  have deepCopied : deepCopy object.policy object.heap =
      (.ok { object.policy with authorities }, middle) := by
    unfold deepCopy
    rw [Proc.bind_of_ok copied]
    rfl
  have distinct : (allPointers authorities).Nodup := by
    rw [fresh]
    exact List.nodup_range'
  have changes := inlineAuthorities_changes p lookups authorities distinct middle
  unfold inlinePublicKeys
  rw [Proc.bind_of_ok deepCopied]
  generalize ran : authorities.forM (inlineAuthority p lookups) middle = result at changes
  have value : object.value.authorities = authorities.map (V1alpha1.Authority.map middle.cell) :=
    reads.symm
  cases changes with
  | failed err later within fails =>
    rw [Proc.bind_of_error (congrArg Prod.fst ran), ran]
    refine .failed err later (within.grown grown fresh) ?_
    unfold inlined
    rw [value, fails]
    rfl
  | done later within computes =>
    rw [Proc.bind_of_ok ran]
    refine .done _ later (within.grown grown fresh) ?_
    unfold inlined
    rw [value, computes]
    rfl

theorem value_of_extends {object : Object} {later : KeyHeap} (grown : Extends object.heap later) :
    object.policy.map later.cell = object.value := by
  unfold Object.value V1alpha1.ClusterImagePolicy.map
  have same : object.policy.authorities.map (V1alpha1.Authority.map later.cell) =
      object.policy.authorities.map (V1alpha1.Authority.map object.heap.cell) := by
    refine authorities_local _ _ _ fun pointer found => grown.holds pointer ?_
    obtain ⟨authority, listed, here⟩ := List.mem_flatMap.mp found
    exact object.allocated authority listed pointer here
  rw [same]

end Cosign.Verif
