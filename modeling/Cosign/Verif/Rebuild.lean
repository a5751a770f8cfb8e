import Cosign.Go.Results
import Cosign.Spec.Visit

/-!
# The index that `Map` builds

`AppendManifests` on an empty index, as `Map` uses it: the new index lists exactly what it is given,
under the descriptors it is given, and finds every entity by its digest (`rebuild_rebuilt`).
-/
namespace Cosign.Verif

open Cosign.Go Cosign.Oci Cosign.Spec

variable {kept : List Survivor} {child : Survivor} {im : IndexHeader}

/-- What `Map` adds to the new index for a survivor. -/
def addendumOf (child : Survivor) : IndexAddendum := .of child.original child.entity

@[simp]
theorem addendumOf_add (child : Survivor) : (addendumOf child).add = child.entity :=
  rfl

/-- The index that `Map` builds for some survivors. -/
def rebuild (checksum : IndexHeader → List ManifestDescriptor → Hash × Int) (calls : Nat)
    (im : IndexHeader) (kept : List Survivor) : SignedIndex :=
  appendManifests checksum calls im (kept.map addendumOf)

/-- A survivor that can be read, in the place of an entity of its kind. -/
structure Addable (child : Survivor) : Prop where
  /-- The entity can be read. -/
  sound : Sound child.entity
  kind : manifestKind child.original.mediaType = some child.entity.kind

theorem legible_of_sound {se : Entity} (sound : Sound se) : Legible se.handle := by
  cases sound with
  | image legible => exact legible
  | index legible known below => exact legible

theorem manifestKind_empty : manifestKind "" = none := by
  decide

theorem Addable.descriptor (addable : Addable child) : ∃ desc,
    (addendumOf child).descriptor = .ok desc ∧ desc.mediaType = child.original.mediaType ∧
    desc.urls = child.original.urls ∧ desc.annotations = child.original.annotations ∧
    desc.platform = child.original.platform ∧ child.entity.handle.digest = .ok desc.digest ∧
    child.entity.handle.size = .ok desc.size := by
  have legible := legible_of_sound addable.sound
  obtain ⟨size, sizeIs⟩ := legible.size
  obtain ⟨digest, digestIs⟩ := legible.digest
  obtain ⟨mediaType, typeIs⟩ := legible.mediaType
  have typed : child.original.mediaType ≠ "" := by
    intro empty
    have kind := addable.kind
    rw [empty, manifestKind_empty] at kind
    cases kind
  have computed : (addendumOf child).descriptor = .ok
      { mediaType := child.original.mediaType, digest, size, urls := child.original.urls
        annotations := child.original.annotations, platform := child.original.platform } := by
    simp [addendumOf, IndexAddendum.of, IndexAddendum.descriptor, sizeIs, digestIs, typeIs, bind,
      Except.bind, typed]
  exact ⟨_, computed, rfl, rfl, rfl, rfl, digestIs, sizeIs⟩

theorem firstOfKind_found {h : Hash} (addable : ∀ other ∈ kept, Addable other)
    (inside : child ∈ kept) (digest : child.entity.handle.digest = .ok h) :
    ∃ other ∈ kept, other.entity.kind = child.entity.kind ∧ other.entity.handle.digest = .ok h ∧
      firstOfKind child.entity.kind h (kept.map addendumOf) = .ok other.entity := by
  induction kept with
  | nil => cases inside
  | cons first rest ih =>
    -- The rest of the list is searched unless the first one is of the kind and has the digest.
    have later : child ∈ rest → ∃ other ∈ first :: rest,
        other.entity.kind = child.entity.kind ∧ other.entity.handle.digest = .ok h ∧
          firstOfKind child.entity.kind h (rest.map addendumOf) = .ok other.entity := by
      intro inRest
      have restAddable := fun other inside => addable other (List.mem_cons_of_mem first inside)
      obtain ⟨other, otherIn, found⟩ := ih restAddable inRest
      exact ⟨other, List.mem_cons_of_mem first otherIn, found⟩
    have firstAddable := addable first List.mem_cons_self
    obtain ⟨firstDigest, firstIs⟩ := (legible_of_sound firstAddable.sound).digest
    rw [List.map_cons, firstOfKind, addendumOf_add]
    by_cases sameKind : first.entity.kind = child.entity.kind
    · simp only [if_pos sameKind, firstIs, bind, Except.bind]
      by_cases sameDigest : firstDigest = h
      · rw [if_pos sameDigest]
        rw [sameDigest] at firstIs
        exact ⟨first, List.mem_cons_self, sameKind, firstIs, rfl⟩
      · rw [if_neg sameDigest]
        cases List.mem_cons.mp inside with
        | inl isFirst =>
          rw [isFirst, firstIs] at digest
          exact absurd (Except.ok.inj digest) sameDigest
        | inr inRest => exact later inRest
    · rw [if_neg sameKind]
      cases List.mem_cons.mp inside with
      | inl isFirst => exact absurd (congrArg (·.entity.kind) isFirst.symm) sameKind
      | inr inRest => exact later inRest

/-- A new index finds an entity by its digest: one of the kind with the digest. -/
theorem listedEntity_wrapper {desc : ManifestDescriptor}
    (addable : ∀ other ∈ kept, Addable other) (inside : child ∈ kept)
    (digest : child.entity.handle.digest = .ok desc.digest)
    (mediaType : desc.mediaType = child.original.mediaType) :
    ∃ other ∈ kept, other.entity.kind = child.entity.kind ∧
      other.entity.handle.digest = child.entity.handle.digest ∧
      listedEntity ⟨desc, wrapperSignedImage (kept.map addendumOf) desc.digest,
        wrapperSignedImageIndex (kept.map addendumOf) desc.digest⟩ = some other.entity := by
  obtain ⟨other, otherIn, sameKind, sameDigest, found⟩ := firstOfKind_found addable inside digest
  refine ⟨other, otherIn, sameKind, sameDigest.trans digest.symm, ?_⟩
  have typed := (addable child inside).kind
  unfold listedEntity
  rw [mediaType, typed]
  cases kind : child.entity.kind with
  | image =>
    rw [kind] at sameKind found
    cases se : other.entity with
    | image si =>
      rw [se] at found
      simp only [wrapperSignedImage, found, bind, Except.bind, Except.toOption, Option.map]
    | index sii =>
      rw [se] at sameKind
      cases sameKind
  | index =>
    rw [kind] at sameKind found
    cases se : other.entity with
    | image si =>
      rw [se] at sameKind
      cases sameKind
    | index sii =>
      rw [se] at found
      simp only [wrapperSignedImageIndex, found, bind, Except.bind, Except.toOption, Option.map]

/-- The manifests of a new index list the addenda, and each stands for one of them. -/
theorem wrapperManifests_lists (addable : ∀ other ∈ kept, Addable other) :
    ∃ manifests, wrapperManifests (kept.map addendumOf) = .ok manifests ∧
      List.Forall₂ (ListedAs kept) kept manifests ∧
      ∀ manifest ∈ manifests, ∃ other ∈ kept, listedEntity manifest = some other.entity := by
  have each : ∀ child ∈ kept, ∃ manifest,
      (do
        let desc ← (addendumOf child).descriptor
        .ok ⟨desc, wrapperSignedImage (kept.map addendumOf) desc.digest,
          wrapperSignedImageIndex (kept.map addendumOf) desc.digest⟩ :
        Except GoError (Manifest SignedIndex)) = .ok manifest ∧
      ListedAs kept child manifest ∧
      ∃ other ∈ kept, listedEntity manifest = some other.entity := by
    intro child inside
    obtain ⟨desc, computed, mediaType, urls, annotations, platform, digest, size⟩ :=
      (addable child inside).descriptor
    obtain ⟨other, otherIn, sameKind, sameDigest, found⟩ :=
      listedEntity_wrapper addable inside digest mediaType
    refine ⟨_, bind_eq_value.mpr ⟨desc, computed, rfl⟩, ?_, ⟨other, otherIn, found⟩⟩
    refine ⟨mediaType, urls, annotations, platform, digest, size, fun distinct => ?_⟩
    rw [found, distinct other otherIn sameKind sameDigest]
  obtain ⟨manifests, ran⟩ := exists_mapM_eq_ok.mpr fun child inside =>
    (each child inside).imp fun manifest facts => facts.1
  have both : List.Forall₂ (fun child manifest => ListedAs kept child manifest ∧
      ∃ other ∈ kept, listedEntity manifest = some other.entity) kept manifests := by
    apply (forall₂_iff_forall (mapM_eq_ok.mp ran) ?_).mpr fun _ _ => trivial
    intro child inside manifest computed
    obtain ⟨manifest', computed', facts⟩ := each child inside
    rw [computed] at computed'
    rw [Except.ok.inj computed']
    exact iff_true_intro facts
  have stands : List.Forall₂ (fun manifest child =>
      (∃ other ∈ kept, listedEntity manifest = some other.entity) ∧
        ListedAs kept child manifest) manifests kept :=
    List.Forall₂.flip (both.imp fun child manifest facts => ⟨facts.2, facts.1⟩)
  exact ⟨manifests, List.mapM_map.trans ran, both.imp fun child manifest facts => facts.1,
    ((List.forall₂_and_left _ _).mp stands).1⟩

/-- **The index that `Map` builds** lists exactly what it is given, and can be read. -/
theorem rebuild_rebuilt (checksum : IndexHeader → List ManifestDescriptor → Hash × Int)
    (calls : Nat) (im : IndexHeader) (addable : ∀ other ∈ kept, Addable other) :
    Rebuilt im kept (rebuild checksum calls im kept) ∧
      Sound (.index (rebuild checksum calls im kept)) := by
  obtain ⟨manifests, computed, lists, stands⟩ := wrapperManifests_lists addable
  have built : ∃ handle, Legible handle ∧
      rebuild checksum calls im kept = .mk handle (.ok (im, manifests)) := by
    unfold rebuild appendManifests
    rw [computed]
    exact ⟨_, ⟨⟨_, rfl⟩, ⟨_, rfl⟩, ⟨_, rfl⟩⟩, rfl⟩
  obtain ⟨handle, legible, built⟩ := built
  rw [built]
  refine ⟨⟨manifests, rfl, lists⟩, .index legible ?_ ?_⟩
  · intro manifest inside
    obtain ⟨other, -, found⟩ := stands manifest inside
    exact ⟨other.entity, found⟩
  · intro manifest inside se seIs
    obtain ⟨other, otherIn, found⟩ := stands manifest inside
    rw [found] at seIs
    rw [← Option.some.inj seIs]
    exact (addable other otherIn).sound

end Cosign.Verif
