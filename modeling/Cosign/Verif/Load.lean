import Cosign.Cli.Load
import Cosign.Verif.Layout

/-!
# Saving and loading reproduce a signed entity

What a load leaves in a registry is said once (`loaded`): a load that returns has led there, and a
load without failing calls returns. Both lists of the entity are found again under the tags made of
its digest. The reference itself can be one of these tags; then the entity and a list take each
other's place.
-/
namespace Cosign.Verif

open Cosign.Go Cosign.Encoding Cosign.Oci Cosign.Remote Cosign.Cli

variable {faults : LoadFaults} {ref : Reference} {layout : Layout} {part : LoadPart}
  {held next : References} {o : Options} {client : RegistryClient}

/-! ## What a load leaves -/

/-- A registry after a part of a layout was written, if it was there. -/
def withPart (found : Option LayoutManifest) (kind : EntityKind) (address : Tag)
    (held : References) : References :=
  match found with
  | none => held
  | some manifest =>
    Function.update held address (some ⟨kind, manifest.digest, manifest.layers⟩)

theorem withPart_of_ne {found : Option LayoutManifest} {kind : EntityKind} {address other : Tag}
    (apart : other ≠ address) : withPart found kind address held other = held other := by
  cases found with
  | none => rfl
  | some manifest => exact Function.update_of_ne apart ..

theorem attempt_eq_ok {step : LoadStep} :
    attempt faults step held = (.ok (), next) ↔ faults step = none ∧ held = next := by
  unfold attempt
  cases faults step <;> simp [Proc.done, Proc.fail]

theorem readPart_eq_ok {found : Option LayoutManifest} :
    readPart faults layout part held = (.ok found, next) ↔
      faults (.read part) = none ∧ layout.byKind part.mark = found ∧ held = next := by
  unfold readPart
  rw [Proc.bind_eq_ok]
  constructor
  · rintro ⟨_, middle, called, rest⟩
    obtain ⟨working, stays⟩ := attempt_eq_ok.mp called
    cases rest
    exact ⟨working, rfl, stays⟩
  · rintro ⟨working, foundIs, stays⟩
    exact ⟨(), held, attempt_eq_ok.mpr ⟨working, rfl⟩, by rw [foundIs, stays]; rfl⟩

theorem putManifest_eq_ok {manifest : RegistryManifest} :
    putManifest ref manifest held = (.ok (), next) ↔
      ref.Takes manifest.digest ∧
        Function.update held ref.address (some manifest) = next := by
  unfold putManifest
  by_cases takes : ref.Takes manifest.digest <;> simp [takes]

theorem writePart_eq_ok {manifest : RegistryManifest} :
    writePart faults part ref manifest held = (.ok (), next) ↔
      faults (.write part) = none ∧ ref.Takes manifest.digest ∧
        Function.update held ref.address (some manifest) = next := by
  unfold writePart
  rw [Proc.bind_eq_ok]
  constructor
  · intro ran
    obtain ⟨_, middle, called, rest⟩ := ran
    obtain ⟨working, stays⟩ := attempt_eq_ok.mp called
    rw [stays]
    exact ⟨working, putManifest_eq_ok.mp rest⟩
  · intro ran
    exact ⟨(), held, attempt_eq_ok.mpr ⟨ran.1, rfl⟩, putManifest_eq_ok.mpr ran.2⟩

theorem digestUnder_eq_ok {address : Tag} {manifest : RegistryManifest}
    (holds : held address = some manifest) :
    digestUnder address held = (.ok manifest.digest, held) := by
  unfold digestUnder
  rw [holds]

/-- The tag of a list, once the reference holds a manifest that it takes. The digest of a tag is
asked for, and that can fail. -/
theorem suffixTag_eq_ok {suffix : String} {tag : Tag} {manifest : RegistryManifest}
    (holds : held ref.address = some manifest) (takes : ref.Takes manifest.digest)
    (ran : suffixTag faults part ref suffix o held = (.ok tag, next)) :
    o.suffixTag manifest.digest suffix = tag ∧ held = next := by
  cases ref with
  | digest repository named =>
    have same : named.hash = manifest.digest := takes
    rw [← same]
    cases ran
    exact ⟨rfl, rfl⟩
  | tag named =>
    obtain ⟨_, middle, called, rest⟩ := Proc.bind_eq_ok.mp ran
    have stays := (attempt_eq_ok.mp called).2
    subst stays
    have under : held named = some manifest := holds
    rw [Proc.bind_of_ok (digestUnder_eq_ok under)] at rest
    cases rest
    exact ⟨rfl, rfl⟩

theorem suffixTag_works {suffix : String} {manifest : RegistryManifest}
    (holds : held ref.address = some manifest) (takes : ref.Takes manifest.digest) :
    suffixTag (fun _ => none) part ref suffix o held =
      (.ok (o.suffixTag manifest.digest suffix), held) := by
  cases ref with
  | digest repository named =>
    have same : named.hash = manifest.digest := takes
    rw [← same]
    rfl
  | tag named =>
    apply Proc.bind_eq_ok.mpr
    refine ⟨(), held, attempt_eq_ok.mpr ⟨rfl, rfl⟩, ?_⟩
    have under : held named = some manifest := holds
    rw [Proc.bind_of_ok (digestUnder_eq_ok under)]
    rfl

/-- When the entity of a layout is written, and where that leads. -/
theorem loadEntity_eq_ok {kind : EntityKind} {reading writing : String} :
    loadEntity faults ref layout part kind reading writing held = (.ok (), next) ↔
      faults (.read part) = none ∧
      (∀ manifest, layout.byKind part.mark = some manifest →
        faults (.write part) = none ∧ ref.Takes manifest.digest) ∧
      withPart (layout.byKind part.mark) kind ref.address held = next := by
  unfold loadEntity
  simp only [Proc.bind_eq_ok, Proc.wrap_eq_ok, readPart_eq_ok]
  cases listed : layout.byKind part.mark with
  | none =>
    constructor
    · rintro ⟨_, _, ⟨working, rfl, rfl⟩, rest⟩
      cases rest
      refine ⟨working, fun manifest nothing => ?_, rfl⟩
      cases nothing
    · rintro ⟨working, _, rfl⟩
      exact ⟨none, held, ⟨working, rfl, rfl⟩, rfl⟩
  | some manifest =>
    constructor
    · rintro ⟨_, _, ⟨working, rfl, rfl⟩, rest⟩
      obtain ⟨writes, takes, nextIs⟩ := writePart_eq_ok.mp (Proc.wrap_eq_ok.mp rest)
      refine ⟨working, fun other same => ?_, nextIs⟩
      cases same
      exact ⟨writes, takes⟩
    · rintro ⟨working, each, nextIs⟩
      obtain ⟨writes, takes⟩ := each manifest rfl
      refine ⟨some manifest, held, ⟨working, rfl, rfl⟩, ?_⟩
      exact Proc.wrap_eq_ok.mpr (writePart_eq_ok.mpr ⟨writes, takes, nextIs⟩)

/-- Where the write of a list leads, once the reference holds the entity. -/
theorem loadList_eq_ok {suffix : String} {manifest : RegistryManifest}
    (holds : held ref.address = some manifest) (takes : ref.Takes manifest.digest)
    (ran : loadList faults ref layout part suffix o held = (.ok (), next)) :
    withPart (layout.byKind part.mark) .image (o.suffixTag manifest.digest suffix) held = next := by
  obtain ⟨found, middle, read, rest⟩ := Proc.bind_eq_ok.mp ran
  obtain ⟨_, foundIs, stays⟩ := readPart_eq_ok.mp read
  rw [foundIs]
  subst stays
  cases found with
  | none =>
    cases rest
    rfl
  | some listed =>
    obtain ⟨tag, middle, resolved, rest⟩ := Proc.bind_eq_ok.mp rest
    obtain ⟨tagIs, stays⟩ := suffixTag_eq_ok holds takes (Proc.wrap_eq_ok.mp resolved)
    subst tagIs stays
    exact (writePart_eq_ok.mp rest).2.2

theorem loadList_works (layout : Layout) (part : LoadPart) (suffix : String) (o : Options)
    {manifest : RegistryManifest} (holds : held ref.address = some manifest)
    (takes : ref.Takes manifest.digest) :
    loadList (fun _ => none) ref layout part suffix o held =
      (.ok (), withPart (layout.byKind part.mark) .image (o.suffixTag manifest.digest suffix)
        held) := by
  apply Proc.bind_eq_ok.mpr
  refine ⟨_, held, readPart_eq_ok.mpr ⟨rfl, rfl, rfl⟩, ?_⟩
  cases layout.byKind part.mark with
  | none => rfl
  | some listed =>
    apply Proc.bind_eq_ok.mpr
    refine ⟨_, held, Proc.wrap_eq_ok.mpr (suffixTag_works holds takes), ?_⟩
    exact writePart_eq_ok.mpr ⟨rfl, trivial, rfl⟩

/-- The part of a layout that is an entity of a kind. -/
def entityPart : EntityKind → LoadPart
  | .index => .index
  | .image => .image

/-- A layout lists one entity, of a kind and with a digest. -/
structure ListsOne (layout : Layout) (kind : EntityKind) (manifest : LayoutManifest) : Prop where
  /-- The entity is found by the annotation of its kind. -/
  listed : layout.byKind (entityPart kind).mark = some manifest
  /-- There is none of the other kind. -/
  alone : ∀ other, other ≠ kind → layout.byKind (entityPart other).mark = none

/-- What a load leaves in a registry. -/
def loaded (layout : Layout) (kind : EntityKind) (manifest : LayoutManifest) (address : Tag)
    (o : Options) (held : References) : References :=
  withPart (layout.byKind attsAnnotation) .image
    (o.suffixTag manifest.digest o.attestationSuffix)
    (withPart (layout.byKind sigsAnnotation) .image
      (o.suffixTag manifest.digest o.signatureSuffix)
      (withPart (some manifest) kind address held))

section Loaded

variable {kind : EntityKind} {manifest : LayoutManifest} {opts : List TagOption}
  {dest after : References}

/-- Where the two entity writes lead: one of them finds the entity. -/
theorem loadEntities_eq_ok {middle : References} (one : ListsOne layout kind manifest)
    (index : loadEntity faults ref layout .index .index "signed image index" "writing index" dest =
      (.ok (), middle))
    (image : loadEntity faults ref layout .image .image "signed image" "remote write" middle =
      (.ok (), next)) :
    ref.Takes manifest.digest ∧ withPart (some manifest) kind ref.address dest = next := by
  obtain ⟨_, indexTakes, indexIs⟩ := loadEntity_eq_ok.mp index
  obtain ⟨_, imageTakes, imageIs⟩ := loadEntity_eq_ok.mp image
  have listed := one.listed
  cases kind with
  | index =>
    have noImage : layout.byKind LoadPart.image.mark = none := one.alone .image (by decide)
    rw [noImage] at imageIs
    have indexFound : layout.byKind LoadPart.index.mark = some manifest := listed
    rw [indexFound] at indexIs
    exact ⟨(indexTakes manifest indexFound).2, indexIs.trans imageIs⟩
  | image =>
    have noIndex : layout.byKind LoadPart.index.mark = none := one.alone .index (by decide)
    rw [noIndex] at indexIs
    have imageFound : layout.byKind LoadPart.image.mark = some manifest := listed
    rw [imageFound] at imageIs
    have stays : dest = middle := indexIs
    rw [stays]
    exact ⟨(imageTakes manifest imageFound).2, imageIs⟩

theorem withPart_self (manifest : LayoutManifest) (kind : EntityKind) (address : Tag)
    (held : References) :
    withPart (some manifest) kind address held address =
      some ⟨kind, manifest.digest, manifest.layers⟩ :=
  Function.update_self ..

/-- A load that returns has led to `loaded`, if the signatures are not written over the entity. -/
theorem load_eq_ok (one : ListsOne layout kind manifest)
    (apart : ref.address ≠ (makeOptions ref.context opts).suffixTag manifest.digest
      (makeOptions ref.context opts).signatureSuffix)
    (ran : writeSignedImageIndexImages faults ref layout opts dest = (.ok (), after)) :
    loaded layout kind manifest ref.address (makeOptions ref.context opts) dest = after := by
  obtain ⟨_, first, index, ran⟩ := Proc.bind_eq_ok.mp ran
  obtain ⟨_, second, image, ran⟩ := Proc.bind_eq_ok.mp ran
  obtain ⟨_, third, sigs, atts⟩ := Proc.bind_eq_ok.mp ran
  obtain ⟨takes, secondIs⟩ := loadEntities_eq_ok one index image
  have holds : second ref.address = some ⟨kind, manifest.digest, manifest.layers⟩ := by
    rw [← secondIs, withPart_self]
  have thirdIs := loadList_eq_ok holds takes sigs
  have holds' : third ref.address = some ⟨kind, manifest.digest, manifest.layers⟩ := by
    rw [← thirdIs, withPart_of_ne apart, holds]
  have afterIs := loadList_eq_ok holds' takes atts
  rw [← afterIs, ← thirdIs, ← secondIs]
  rfl

theorem ListsOne.eq_of_listed (one : ListsOne layout kind manifest) {other : EntityKind}
    {found : LayoutManifest} (listed : layout.byKind (entityPart other).mark = some found) :
    found = manifest := by
  by_cases same : other = kind
  · subst same
    exact Option.some.inj (listed.symm.trans one.listed)
  · rw [one.alone other same] at listed
    cases listed

/-- The entity is written if no call fails and the reference takes it. -/
theorem loadEntity_works (one : ListsOne layout kind manifest) (takes : ref.Takes manifest.digest)
    (other : EntityKind) (reading writing : String) (held : References) :
    loadEntity (fun _ => none) ref layout (entityPart other) other reading writing held =
      (.ok (), withPart (layout.byKind (entityPart other).mark) other ref.address held) := by
  refine loadEntity_eq_ok.mpr ⟨rfl, fun found listed => ⟨rfl, ?_⟩, rfl⟩
  rw [one.eq_of_listed listed]
  exact takes

/-- A load returns if no call fails and the reference takes the entity. -/
theorem load_works (one : ListsOne layout kind manifest) (takes : ref.Takes manifest.digest)
    (apart : ref.address ≠ (makeOptions ref.context opts).suffixTag manifest.digest
      (makeOptions ref.context opts).signatureSuffix) :
    writeSignedImageIndexImages (fun _ => none) ref layout opts dest =
      (.ok (), loaded layout kind manifest ref.address (makeOptions ref.context opts) dest) := by
  have index := loadEntity_works one takes .index "signed image index" "writing index" dest
  have image := loadEntity_works one takes .image "signed image" "remote write"
    (withPart (layout.byKind (entityPart .index).mark) .index ref.address dest)
  have secondIs := (loadEntities_eq_ok one index image).2
  have holds := withPart_self manifest kind ref.address dest
  rw [← secondIs] at image
  simp only [entityPart] at index image
  unfold writeSignedImageIndexImages loaded
  generalize makeOptions ref.context opts = o at apart ⊢
  have sigs := loadList_works layout .signatures o.signatureSuffix o holds takes
  have kept : withPart (layout.byKind sigsAnnotation) .image
      (o.suffixTag manifest.digest o.signatureSuffix)
      (withPart (some manifest) kind ref.address dest) ref.address =
        some ⟨kind, manifest.digest, manifest.layers⟩ :=
    (withPart_of_ne apart).trans holds
  have atts := loadList_works layout .attestations o.attestationSuffix o kept takes
  rw [Proc.bind_of_ok index, Proc.bind_of_ok image, Proc.bind_of_ok sigs]
  exact atts

end Loaded

/-! ## What is read back -/

section ReadBack

variable {se : SavedEntity} {saveFaults : SaveFaults} {mark : String} {tag : Tag}

/-- A list whose read succeeds, with what its `Get` returns; nil has no elements. -/
def Gives (list : Except GoError (Option SignatureSlice)) (sl : List OciSignature) : Prop :=
  ∃ value slice, list = .ok (some value) ∧ value.slice = .ok slice ∧ slice.getD [] = sl

theorem write_listsOne (saved : se.write saveFaults = .ok (.ok layout)) :
    ∃ manifest, ListsOne layout se.kind manifest ∧ se.digest = .ok manifest.digest := by
  have mark : ∀ kind, (entityPart kind).mark = entityMark kind := by
    intro kind
    cases kind <;> rfl
  obtain ⟨⟨manifest, found, known⟩, alone, _⟩ := write_marks saved
  refine ⟨manifest, ⟨?_, fun other different => ?_⟩, known⟩
  · rw [mark, found]
  · rw [mark, alone other different]

/-- A list that a client reads: it has nothing, or the layers of an image. -/
inductive ClientList (client : RegistryClient) : SignatureSlice → Prop where
  /-- Nothing is found. -/
  | nil (value : SignatureSlice) (slice : value.slice = .ok none) : ClientList client value
  /-- An image is found. -/
  | image (digest : Hash) (layers : List StoredLayer) :
    ClientList client
      ⟨.ofStored layers, .ok digest, .ok (some (layers.map (downloaded client.pem)))⟩

theorem clientList_signatures {value : SignatureSlice}
    (read : client.signatures held tag = .ok value) : ClientList client value := by
  unfold RegistryClient.signatures at read
  cases fetched : client.remoteImage held tag with
  | error err =>
    rw [fetched] at read
    cases read
  | ok found =>
    rw [fetched] at read
    cases found with
    | none =>
      cases read
      exact .nil _ rfl
    | some manifest =>
      simp only [Except.map, sigsGet_ofStored] at read
      cases read
      exact .image manifest.digest manifest.layers

theorem signatures_congr {other : References} (same : held tag = other tag) :
    client.signatures held tag = client.signatures other tag := by
  unfold RegistryClient.signatures RegistryClient.remoteImage
  rw [same]

theorem gives_absent (absent : held tag = none) :
    Gives ((client.signatures held tag).map some) [] := by
  unfold RegistryClient.signatures RegistryClient.remoteImage
  rw [absent]
  exact ⟨_, none, rfl, rfl, rfl⟩

theorem gives_image {digest : Hash} {layers : List StoredLayer}
    (holds : held tag = some ⟨.image, digest, layers⟩) :
    Gives ((client.signatures held tag).map some) (layers.map (downloaded client.pem)) := by
  unfold RegistryClient.signatures RegistryClient.remoteImage
  rw [holds]
  simp only [Except.map, sigsGet_ofStored]
  exact ⟨_, some _, rfl, rfl, rfl⟩

/-- A list that was saved and loaded gives what it gave. One without elements may not have been
written: then its tag has none either. -/
theorem gives_loaded {value : SignatureSlice} {sl : List OciSignature}
    (read : ClientList client value) (gives : Gives (.ok (some value)) sl)
    (saved : SavedList value (layout.byKind mark))
    (before : sl = [] → Gives ((client.signatures held tag).map some) [])
    (under : next tag = withPart (layout.byKind mark) .image tag held tag) :
    Gives ((client.signatures next tag).map some) sl := by
  rw [signatures_congr under]
  obtain ⟨same, slice, given, got, slIs⟩ := gives
  cases given
  cases read with
  | nil _ nothing =>
    have empty : isEmpty value = true := by rw [isEmpty, nothing]
    cases got.symm.trans nothing
    have without : sl = [] := slIs.symm
    rw [saved.empty empty, without]
    exact before without
  | image digest layers =>
    obtain ⟨manifest, found, published⟩ := saved.full rfl
    have layersIs : layers = manifest.layers :=
      Except.ok.inj (published_ofStored.symm.trans published)
    cases got
    rw [found, ← slIs, layersIs]
    exact gives_image (withPart_self manifest .image tag held)

/-- The reference is none of the tags of two lists of a digest, and the tags differ if the lists
do. -/
structure Apart (address : Tag) (h : Hash) (o : Options) (sigs atts : List OciSignature) :
    Prop where
  /-- The reference is not the tag of the signatures. -/
  signatures : address ≠ o.suffixTag h o.signatureSuffix
  /-- The reference is not the tag of the attestations. -/
  attestations : address ≠ o.suffixTag h o.attestationSuffix
  /-- One tag is enough for lists that are the same. -/
  lists : sigs ≠ atts → o.suffixTag h o.signatureSuffix ≠ o.suffixTag h o.attestationSuffix

theorem lists_apart_default (repository : Verify.Repository) (h : Hash) :
    (makeOptions repository []).suffixTag h (makeOptions repository []).signatureSuffix ≠
      (makeOptions repository []).suffixTag h (makeOptions repository []).attestationSuffix := by
  intro same
  have names : Remote.normalize h "" "sig" = Remote.normalize h "" "att" :=
    congrArg Tag.identifier same
  have texts := congrArg String.toList names
  simp [Remote.normalize, String.toList_append] at texts

/-- A registry has no list of a digest. -/
structure Fresh (held : References) (h : Hash) (o : Options) : Prop where
  /-- It has no signatures. -/
  signatures : held (o.suffixTag h o.signatureSuffix) = none
  /-- It has no attestations. -/
  attestations : held (o.suffixTag h o.attestationSuffix) = none

/-- The entity that is read at a reference has the kind, the digest and the lists of another. -/
def Reproduces (se : SavedEntity) (sigs atts : List OciSignature)
    (read : Except GoError SavedEntity) : Prop :=
  ∃ found, read = .ok found ∧ found.kind = se.kind ∧ found.digest = se.digest ∧
    Gives found.signatures sigs ∧ Gives found.attestations atts

theorem clientEntity_eq_ok {opts : List TagOption} :
    client.signedEntity held ref opts = .ok se ↔
      ∃ manifest, held ref.address = some manifest ∧
        client.entity held manifest (makeOptions ref.context opts) = se := by
  unfold RegistryClient.signedEntity
  cases held ref.address <;> simp

section Loaded

variable {manifest : LayoutManifest} {dest : References} {sigs atts : List OciSignature}
  {sigsValue attsValue : SignatureSlice}
  (sigsRead : ClientList client sigsValue) (sigsGiven : Gives (.ok (some sigsValue)) sigs)
  (sigsSaved : SavedList sigsValue (layout.byKind sigsAnnotation))
  (attsRead : ClientList client attsValue) (attsGiven : Gives (.ok (some attsValue)) atts)
  (attsSaved : SavedList attsValue (layout.byKind attsAnnotation))

include sigsRead sigsGiven sigsSaved attsRead attsGiven attsSaved

/-- What is read of the lists after a load into a registry without them. -/
theorem gives_lists_loaded (kind : EntityKind)
    (apart : Apart ref.address manifest.digest o sigs atts) (fresh : Fresh dest manifest.digest o)
    (left : References) (leftIs : loaded layout kind manifest ref.address o dest = left) :
    Gives ((client.signatures left (o.suffixTag manifest.digest o.signatureSuffix)).map some)
        sigs ∧
      Gives ((client.signatures left (o.suffixTag manifest.digest o.attestationSuffix)).map some)
        atts := by
  subst leftIs
  have written : Gives ((client.signatures (withPart (layout.byKind sigsAnnotation) .image
      (o.suffixTag manifest.digest o.signatureSuffix)
      (withPart (some manifest) kind ref.address dest))
      (o.suffixTag manifest.digest o.signatureSuffix)).map some) sigs := by
    refine gives_loaded sigsRead sigsGiven sigsSaved (fun _ => gives_absent ?_) rfl
    rw [withPart_of_ne apart.signatures.symm, fresh.signatures]
  unfold loaded
  by_cases same : o.suffixTag manifest.digest o.signatureSuffix =
      o.suffixTag manifest.digest o.attestationSuffix
  · -- the attestations are written over signatures that are the same
    have equal : sigs = atts := not_imp_not.mp apart.lists same
    rw [same, equal] at written
    rw [same, equal]
    have both := gives_loaded attsRead attsGiven attsSaved (fun without => without ▸ written) rfl
    exact ⟨both, both⟩
  · constructor
    · rw [signatures_congr (withPart_of_ne same)]
      exact written
    · refine gives_loaded attsRead attsGiven attsSaved (fun _ => gives_absent ?_) rfl
      rw [withPart_of_ne (Ne.symm same), withPart_of_ne apart.attestations.symm,
        fresh.attestations]

/-- What is read at a reference after a load into a registry without the lists. -/
theorem reproduces_loaded {opts : List TagOption} (known : se.digest = .ok manifest.digest)
    (apart : Apart ref.address manifest.digest (makeOptions ref.context opts) sigs atts)
    (fresh : Fresh dest manifest.digest (makeOptions ref.context opts)) :
    Reproduces se sigs atts (client.signedEntity
      (loaded layout se.kind manifest ref.address (makeOptions ref.context opts) dest) ref
      opts) := by
  have lists := gives_lists_loaded sigsRead sigsGiven sigsSaved attsRead attsGiven attsSaved se.kind
    apart fresh _ rfl
  have holds : loaded layout se.kind manifest ref.address (makeOptions ref.context opts) dest
      ref.address = some ⟨se.kind, manifest.digest, manifest.layers⟩ := by
    unfold loaded
    rw [withPart_of_ne apart.attestations, withPart_of_ne apart.signatures, withPart_self]
  exact ⟨_, clientEntity_eq_ok.mpr ⟨_, holds, rfl⟩, rfl, known.symm, lists⟩

end Loaded

theorem clientList_of_read {value : SignatureSlice}
    (read : (client.signatures held tag).map some = .ok (some value)) :
    ClientList client value := by
  cases found : client.signatures held tag with
  | error err =>
    rw [found] at read
    cases read
  | ok own =>
    rw [found] at read
    cases read
    exact clientList_signatures found

/-- A list that a client has read is appended if no write fails. -/
theorem appendList_works {value : SignatureSlice} (read : ClientList client value)
    (path : Layout) (mark getting appending : String) :
    ∃ after, appendList path (.ok (some value)) none mark getting appending =
      .ok (.ok after) := by
  unfold appendList
  simp only [deref_some_bind]
  cases read with
  | nil _ nothing => simp [isEmpty, nothing]
  | image digest layers =>
    have appended : appendImage path (Image.ofStored layers).published (.ok digest) none mark =
        .ok (path ++ [annotated mark digest layers]) :=
      appendImage_eq_ok.mpr ⟨layers, digest, published_ofStored, rfl, rfl, rfl⟩
    simp [isEmpty, appended]

/-- An entity of a client whose lists are read is saved if no write fails. -/
theorem write_works {manifest : RegistryManifest} {sigs atts : List OciSignature}
    (sigsGiven : Gives (client.entity held manifest o).signatures sigs)
    (attsGiven : Gives (client.entity held manifest o).attestations atts) :
    ∃ layout, (client.entity held manifest o).write {} = .ok (.ok layout) := by
  obtain ⟨sigsValue, _, sigsIs, _⟩ := sigsGiven
  obtain ⟨attsValue, _, attsIs, _⟩ := attsGiven
  have sigsRead := clientList_of_read sigsIs
  have attsRead := clientList_of_read attsIs
  have works : ∀ mark appending, ∃ layout,
      writeSigned (client.entity held manifest o) {} mark appending = .ok (.ok layout) := by
    intro mark appending
    obtain ⟨middle, first⟩ := appendList_works sigsRead
      [annotated mark manifest.digest manifest.layers] sigsAnnotation "getting signatures"
      "appending signatures"
    obtain ⟨layout, second⟩ := appendList_works attsRead middle attsAnnotation "getting atts"
      "appending atts"
    refine ⟨layout, ?_⟩
    have start : appendImage [] (client.entity held manifest o).contents
        (client.entity held manifest o).digest none mark =
          .ok [annotated mark manifest.digest manifest.layers] := rfl
    simp only [writeSigned, start, writeSignedEntity, sigsIs, attsIs, first]
    exact second
  unfold SavedEntity.write
  cases (client.entity held manifest o).kind with
  | image => exact works _ _
  | index => exact works _ _

end ReadBack

/-- **Saving and loading.** An entity is read from a registry with its lists, saved and loaded to a
reference, in a registry that has no list of its digest. The reference is neither the tag of the
signatures nor that of the attestations of the digest, and options do not give one tag to different
lists. Then the entity at the reference has the same kind and digest and its lists give the same.
Without failing calls, the save and the load return. -/
theorem save_load_reproduces {client : RegistryClient} {source : References} {origin : Reference}
    {originOpts : List TagOption} {se : SavedEntity}
    (read : client.signedEntity source origin originOpts = .ok se) {h : Hash}
    (known : se.digest = .ok h) {sigs atts : List OciSignature}
    (sigsGiven : Gives se.signatures sigs) (attsGiven : Gives se.attestations atts)
    {dest : References} {ref : Reference} {opts : List TagOption}
    (fresh : Fresh dest h (makeOptions ref.context opts))
    (apart : Apart ref.address h (makeOptions ref.context opts) sigs atts) :
    (∀ saveFaults layout faults after, se.write saveFaults = .ok (.ok layout) →
      writeSignedImageIndexImages faults ref layout opts dest = (.ok (), after) →
      Reproduces se sigs atts (client.signedEntity after ref opts)) ∧
    ∃ layout, se.write {} = .ok (.ok layout) ∧
      (ref.Takes h → ∃ after,
        writeSignedImageIndexImages (fun _ => none) ref layout opts dest = (.ok (), after)) := by
  obtain ⟨manifest, _, seIs⟩ := clientEntity_eq_ok.mp read
  subst seIs
  constructor
  · intro saveFaults layout faults after saved ran
    obtain ⟨listed, one, knownIs⟩ := write_listsOne saved
    cases known.symm.trans knownIs
    rw [← load_eq_ok one apart.signatures ran]
    have written := write_eq_ok saved
    obtain ⟨sigsValue, sigsIs, sigsSaved⟩ := written.signatures
    obtain ⟨attsValue, attsIs, attsSaved⟩ := written.attestations
    have sigsRead := clientList_of_read sigsIs
    have attsRead := clientList_of_read attsIs
    rw [sigsIs] at sigsGiven
    rw [attsIs] at attsGiven
    exact reproduces_loaded sigsRead sigsGiven sigsSaved attsRead attsGiven attsSaved knownIs apart
      fresh
  · obtain ⟨layout, saved⟩ := write_works sigsGiven attsGiven
    refine ⟨layout, saved, fun takes => ?_⟩
    obtain ⟨listed, one, knownIs⟩ := write_listsOne saved
    cases known.symm.trans knownIs
    exact ⟨_, load_works one takes apart.signatures⟩

/-- A tag of the sample repository. -/
def loadTag (name : String) : Reference := .tag ⟨⟨"registry.example", false, "app"⟩, name⟩

/-- A client whose registry has no index. -/
def sampleClient : RegistryClient where
  pem := sampleLoader
  platformImage _ := .error ⟨"no child with platform linux/amd64 in index"⟩
  emptyDigest := sampleImage

/-- A registry with an image and the list of its one signature. -/
def signedSource : References :=
  Function.update
    (Function.update (fun _ => none) (loadTag "v1").address (some ⟨.image, sampleImage, []⟩))
    (loadTag "sha256-00.sig").address (some ⟨.image, ⟨"sha256", "01"⟩, [savedLayer]⟩)

/-- The image with its lists. -/
def entityAtSource : SavedEntity :=
  sampleClient.entity signedSource ⟨.image, sampleImage, []⟩
    (makeOptions (loadTag "v1").context [])

theorem sourceEntity_read :
    sampleClient.signedEntity signedSource (loadTag "v1") [] = .ok entityAtSource :=
  clientEntity_eq_ok.mpr ⟨_, Function.update_of_ne (by decide +kernel) .., rfl⟩

theorem sourceEntity_signatures :
    Gives entityAtSource.signatures [downloaded sampleLoader savedLayer] :=
  ⟨_, _, rfl, rfl, rfl⟩

theorem sourceEntity_attestations : Gives entityAtSource.attestations [] :=
  ⟨_, _, rfl, rfl, rfl⟩

/-- The image is saved and loaded to another tag. -/
theorem save_load_reproduces_tag : ∃ layout after,
    entityAtSource.write {} = .ok (.ok layout) ∧
    writeSignedImageIndexImages (fun _ => none) (loadTag "v2") layout [] (fun _ => none) =
      (.ok (), after) ∧
    Reproduces entityAtSource [downloaded sampleLoader savedLayer] []
      (sampleClient.signedEntity after (loadTag "v2") []) := by
  have apart : Apart (loadTag "v2").address sampleImage (makeOptions (loadTag "v2").context [])
      [downloaded sampleLoader savedLayer] [] :=
    ⟨by decide +kernel, by decide +kernel, fun _ => lists_apart_default _ _⟩
  have fresh : Fresh (fun _ => none) sampleImage (makeOptions (loadTag "v2").context []) :=
    ⟨rfl, rfl⟩
  obtain ⟨reproduces, layout, saved, loads⟩ := save_load_reproduces sourceEntity_read rfl
    sourceEntity_signatures sourceEntity_attestations fresh apart
  obtain ⟨after, ran⟩ := loads trivial
  exact ⟨layout, after, saved, ran, reproduces {} layout _ after saved ran⟩

/-- The image is loaded to the tag of its own signatures, in an empty registry: the save and the
load return, and the list of signatures is read in place of the image. -/
theorem load_replaces_entity : ∃ layout after,
    entityAtSource.write {} = .ok (.ok layout) ∧
    Fresh (fun _ => none) sampleImage (makeOptions (loadTag "sha256-00.sig").context []) ∧
    writeSignedImageIndexImages (fun _ => none) (loadTag "sha256-00.sig") layout []
      (fun _ => none) = (.ok (), after) ∧
    ¬Reproduces entityAtSource [downloaded sampleLoader savedLayer] []
      (sampleClient.signedEntity after (loadTag "sha256-00.sig") []) := by
  refine ⟨_, _, rfl, ⟨rfl, rfl⟩, rfl, fun reproduced => ?_⟩
  obtain ⟨found, read, _, digestIs, _⟩ := reproduced
  cases read
  exact absurd digestIs (by decide +kernel)

end Cosign.Verif
