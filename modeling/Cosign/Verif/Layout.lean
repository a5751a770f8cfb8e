import Cosign.Verif.SignatureList
import Cosign.Verify.Entity

/-!
# Saving and reading back

What a successful save has written is said once (`Written`): the digest of the entity is read back,
and each list is there with the layers of its image unless `Get` gave a nil slice. A list whose
`Get` fails is not written, so that its signatures are lost without an error; and a list that is not
written is read back as nil, on which verification panics.
-/
namespace Cosign.Verif

open Cosign.Go Cosign.Encoding Cosign.Oci
open Cosign.Verify hiding Signatures SignedEntity

variable {pem : PemLoader} {path next layout : Layout} {se : SavedEntity} {faults : SaveFaults}
  {mark : String} {fault : Option GoError} {sigs : SignatureSlice}

/-! ## What is written -/

/-- A manifest with an annotation. -/
def annotated (mark : String) (digest : Hash) (layers : List StoredLayer) : LayoutManifest :=
  ⟨AList.singleton kindAnnotation mark, digest, layers⟩

theorem lookup_annotated (mark : String) (digest : Hash) (layers : List StoredLayer) :
    (annotated mark digest layers).annotations.lookup kindAnnotation = some mark :=
  List.dlookup_cons_eq ..

/-- A manifest that is appended is found by its annotation, if there was none. -/
theorem byKind_append_same {digest : Hash} {layers : List StoredLayer}
    (absent : path.byKind mark = none) :
    Layout.byKind (path ++ [annotated mark digest layers]) mark =
      some (annotated mark digest layers) := by
  unfold Layout.byKind at absent ⊢
  rw [List.find?_append, absent]
  simp [lookup_annotated]

/-- A manifest that is appended is not found by another annotation. -/
theorem byKind_append_other {mark other : String} {digest : Hash}
    {layers : List StoredLayer} (different : mark ≠ other) :
    Layout.byKind (path ++ [annotated mark digest layers]) other =
      path.byKind other := by
  unfold Layout.byKind
  rw [List.find?_append]
  simp [lookup_annotated, different]

theorem appendImage_eq_ok {contents : Except GoError (List StoredLayer)}
    {digest : Except GoError Hash} :
    appendImage path contents digest fault mark = .ok next ↔
      ∃ layers h, contents = .ok layers ∧ digest = .ok h ∧ fault = none ∧
        next = path ++ [annotated mark h layers] := by
  unfold appendImage
  rw [bind_eq_value]
  constructor
  · rintro ⟨layers, read, rest⟩
    obtain ⟨h, known, rest⟩ := bind_eq_value.mp rest
    cases fault with
    | some err => cases rest
    | none => exact ⟨layers, h, read, known, rfl, (Except.ok.inj rest).symm⟩
  · rintro ⟨layers, h, read, known, working, nextIs⟩
    refine ⟨layers, read, bind_eq_value.mpr ⟨h, known, ?_⟩⟩
    rw [working, nextIs]
    rfl

/-- A list is not empty exactly when its slice is read and not nil. -/
theorem isEmpty_eq_false :
    isEmpty sigs = false ↔ ∃ sl, sigs.slice = .ok (some sl) := by
  unfold isEmpty
  cases sigs.slice with
  | error err => simp
  | ok pointer => cases pointer <;> simp

/-- What a layout has of a list: nothing if its slice is nil, and else the layers of its image. -/
structure SavedList (sigs : SignatureSlice) (found : Option LayoutManifest) : Prop where
  /-- An empty list is not there. -/
  empty : isEmpty sigs = true → found = none
  /-- Another list is there. -/
  full : isEmpty sigs = false → ∃ manifest, found = some manifest ∧
    sigs.image.published = .ok manifest.layers

/-- What one half of `writeSignedEntity` has done when it succeeds. -/
theorem appendList_eq_ok {list : Except GoError (Option SignatureSlice)}
    {mark getting appending : String} (absent : path.byKind mark = none)
    (ran : appendList path list fault mark getting appending = .ok (.ok next)) :
    (∃ sigs, list = .ok (some sigs) ∧ SavedList sigs (next.byKind mark)) ∧
      ∀ other, mark ≠ other → next.byKind other = path.byKind other := by
  unfold appendList at ran
  cases list with
  | error err => cases Except.ok.inj ran
  | ok pointer =>
    obtain ⟨sigs, followed, ran⟩ := bind_eq_ok.mp ran
    rw [deref_eq_ok.mp followed]
    cases whether : isEmpty sigs with
    | true =>
      rw [whether] at ran
      cases Except.ok.inj (Except.ok.inj ran)
      refine ⟨⟨sigs, rfl, fun _ => absent, fun full => ?_⟩, fun _ _ => rfl⟩
      rw [whether] at full
      cases full
    | false =>
      simp only [whether, Bool.false_eq_true, if_false] at ran
      cases appended : appendImage path sigs.image.published sigs.digest fault mark with
      | error err =>
        rw [appended] at ran
        cases Except.ok.inj ran
      | ok after =>
        rw [appended] at ran
        cases Except.ok.inj (Except.ok.inj ran)
        obtain ⟨layers, h, published, _, _, nextIs⟩ := appendImage_eq_ok.mp appended
        rw [nextIs]
        refine ⟨⟨sigs, rfl, fun empty => ?_, fun _ => ?_⟩, fun other different => ?_⟩
        · rw [whether] at empty
          cases empty
        · exact ⟨_, byKind_append_same absent, published⟩
        · exact byKind_append_other different

/-- What a layout has of an entity. -/
structure Written (se : SavedEntity) (layout : Layout) : Prop where
  /-- Its digest is read back. -/
  digest : ∀ pem, (LocalEntity.ofLayout pem layout).digest = se.digest
  signatures : ∃ sigs, se.signatures = .ok (some sigs) ∧
    SavedList sigs (layout.byKind sigsAnnotation)
  attestations : ∃ atts, se.attestations = .ok (some atts) ∧
    SavedList atts (layout.byKind attsAnnotation)

/-- The steps of `writeSigned` when it succeeds: the entity, its signatures, its attestations. -/
theorem writeSigned_steps {mark appending : String}
    (saved : writeSigned se faults mark appending = .ok (.ok layout)) :
    ∃ start middle, appendImage [] se.contents se.digest faults.entity mark = .ok start ∧
      appendList start se.signatures faults.signatures sigsAnnotation "getting signatures"
        "appending signatures" = .ok (.ok middle) ∧
      appendList middle se.attestations faults.attestations attsAnnotation "getting atts"
        "appending atts" = .ok (.ok layout) := by
  unfold writeSigned at saved
  cases working : faults.write with
  | some err =>
    rw [working] at saved
    cases Except.ok.inj saved
  | none =>
    simp only [working] at saved
    cases appended : appendImage [] se.contents se.digest faults.entity mark with
    | error err =>
      rw [appended] at saved
      cases Except.ok.inj saved
    | ok start =>
      simp only [appended] at saved
      obtain ⟨outcome, first, second⟩ := bind_eq_ok.mp saved
      cases outcome with
      | error err => cases Except.ok.inj second
      | ok middle => exact ⟨start, middle, rfl, first, second⟩

/-- What `writeSigned` has written when it succeeds, beside the digest. -/
theorem writeSigned_eq_ok {mark appending : String} (notSigs : mark ≠ sigsAnnotation)
    (notAtts : mark ≠ attsAnnotation)
    (saved : writeSigned se faults mark appending = .ok (.ok layout)) :
    (∃ h, se.digest = .ok h ∧
      (layout.byKind mark).map LayoutManifest.digest = some h) ∧
    (∀ other, mark ≠ other → sigsAnnotation ≠ other → attsAnnotation ≠ other →
      layout.byKind other = none) ∧
    (∃ sigs, se.signatures = .ok (some sigs) ∧
      SavedList sigs (layout.byKind sigsAnnotation)) ∧
    ∃ atts, se.attestations = .ok (some atts) ∧
      SavedList atts (layout.byKind attsAnnotation) := by
  obtain ⟨start, middle, appended, first, second⟩ := writeSigned_steps saved
  obtain ⟨layers, h, _, known, _, startIs⟩ := appendImage_eq_ok.mp appended
  have only : ∀ other, mark ≠ other → Layout.byKind start other = none := by
    intro other different
    rw [startIs, byKind_append_other different]
    rfl
  have own : Layout.byKind start mark = some (annotated mark h layers) := by
    rw [startIs]
    exact byKind_append_same rfl
  obtain ⟨⟨sigs, given, sigsSaved⟩, kept⟩ := appendList_eq_ok (only _ notSigs) first
  have absent : Layout.byKind middle attsAnnotation = none := by
    rw [kept attsAnnotation (by decide +kernel), only _ notAtts]
  obtain ⟨attsSaved, kept'⟩ := appendList_eq_ok absent second
  refine ⟨⟨h, known, ?_⟩, fun other different noSigs noAtts => ?_, ⟨sigs, given, ?_⟩, attsSaved⟩
  · rw [kept' _ (Ne.symm notAtts), kept _ (Ne.symm notSigs), own]
    rfl
  · rw [kept' _ noAtts, kept _ noSigs, only _ different]
  · rw [kept' sigsAnnotation (by decide +kernel)]
    exact sigsSaved

/-- The annotation that an entity is saved with. -/
def entityMark : EntityKind → String
  | .image => imageAnnotation
  | .index => imageIndexAnnotation

/-- The annotations of the two kinds differ, from each other and from those of the lists. -/
theorem entityMark_apart (kind : EntityKind) :
    entityMark kind ≠ sigsAnnotation ∧ entityMark kind ≠ attsAnnotation ∧
      ∀ other, other ≠ kind → entityMark kind ≠ entityMark other := by
  cases kind with
  | image =>
    refine ⟨by decide +kernel, by decide +kernel, fun other different => ?_⟩
    cases other with
    | image => exact absurd rfl different
    | index => decide +kernel
  | index =>
    refine ⟨by decide +kernel, by decide +kernel, fun other different => ?_⟩
    cases other with
    | image => decide +kernel
    | index => exact absurd rfl different

/-- What a save has written, by annotations: one entity with its digest, and its lists. -/
theorem write_marks (saved : se.write faults = .ok (.ok layout)) :
    (∃ manifest, layout.byKind (entityMark se.kind) = some manifest ∧
      se.digest = .ok manifest.digest) ∧
    (∀ other, other ≠ se.kind → layout.byKind (entityMark other) = none) ∧
    (∃ sigs, se.signatures = .ok (some sigs) ∧ SavedList sigs (layout.byKind sigsAnnotation)) ∧
    ∃ atts, se.attestations = .ok (some atts) ∧
      SavedList atts (layout.byKind attsAnnotation) := by
  have written : ∃ appending,
      writeSigned se faults (entityMark se.kind) appending = .ok (.ok layout) := by
    unfold SavedEntity.write at saved
    cases kind : se.kind with
    | image =>
      rw [kind] at saved
      exact ⟨_, saved⟩
    | index =>
      rw [kind] at saved
      exact ⟨_, saved⟩
  obtain ⟨appending, written⟩ := written
  obtain ⟨notSigs, notAtts, apart⟩ := entityMark_apart se.kind
  obtain ⟨⟨h, known, own⟩, others, lists⟩ := writeSigned_eq_ok notSigs notAtts written
  obtain ⟨manifest, found, digestIs⟩ := Option.map_eq_some_iff.mp own
  refine ⟨⟨manifest, found, by rw [known, digestIs]⟩, fun other different => ?_, lists⟩
  have free := entityMark_apart other
  exact others _ (apart other different) free.1.symm free.2.1.symm

theorem write_eq_ok (saved : se.write faults = .ok (.ok layout)) : Written se layout := by
  obtain ⟨⟨manifest, found, known⟩, alone, sigs, atts⟩ := write_marks saved
  refine ⟨fun pem => ?_, sigs, atts⟩
  unfold LocalEntity.digest LocalEntity.ofLayout
  cases kind : se.kind with
  | image =>
    rw [kind] at found alone
    have noIndex : layout.byKind imageIndexAnnotation = none := alone .index (by decide)
    have listed : layout.byKind imageAnnotation = some manifest := found
    simp only [noIndex, listed, Option.map_none, Option.map_some, known]
  | index =>
    rw [kind] at found
    have listed : layout.byKind imageIndexAnnotation = some manifest := found
    simp only [listed, Option.map_some, known]

/-- One half of `writeSignedEntity` panics only on a list that is nil. -/
theorem appendList_panics {list : Except GoError (Option SignatureSlice)}
    {mark getting appending : String} {panic : Panic}
    (ran : appendList path list fault mark getting appending = .error panic) :
    list = .ok none := by
  unfold appendList at ran
  cases list with
  | error err => cases ran
  | ok pointer =>
    cases pointer with
    | none => rfl
    | some sigs =>
      simp only [deref_some_bind] at ran
      cases whether : isEmpty sigs with
      | true => simp [whether] at ran
      | false =>
        simp only [whether, Bool.false_eq_true, if_false] at ran
        cases appended : appendImage path sigs.image.published sigs.digest fault mark <;>
          simp [appended] at ran

theorem write_panics {panic : Panic} (ran : se.write faults = .error panic) :
    se.signatures = .ok none ∨ se.attestations = .ok none := by
  obtain ⟨mark, appending, ran⟩ : ∃ mark appending,
      writeSigned se faults mark appending = .error panic := by
    unfold SavedEntity.write at ran
    cases kind : se.kind <;> rw [kind] at ran <;> exact ⟨_, _, ran⟩
  unfold writeSigned at ran
  cases working : faults.write with
  | some err => simp [working] at ran
  | none =>
    simp only [working] at ran
    cases appended : appendImage [] se.contents se.digest faults.entity mark with
    | error err => simp [appended] at ran
    | ok start =>
      simp only [appended, writeSignedEntity] at ran
      cases first : appendList start se.signatures faults.signatures sigsAnnotation
        "getting signatures" "appending signatures" with
      | error other => exact .inl (appendList_panics first)
      | ok outcome =>
        rw [first] at ran
        cases outcome with
        | error err => cases ran
        | ok middle => exact .inr (appendList_panics ran)

/-! ## What is read back -/

/-- Two signatures with the same payload and annotations. -/
structure SameContent (sig other : OciSignature) : Prop where
  /-- The same payload. -/
  payload : sig.payload = other.payload
  /-- The same annotations. -/
  annotations : sig.annotations = other.annotations

/-- A list of signatures that is read back, in order; nil has no elements. -/
def ReadsBack (had : List OciSignature) (found : Option Signatures) : Prop :=
  ∃ sl, (found.elim (.ok []) Signatures.get : Except GoError (List OciSignature)) = .ok sl ∧
    List.Forall₂ SameContent had sl

/-- What an entity has as one of its lists: what `Get` returns, if it does not fail. -/
def Has (list : Except GoError (Option SignatureSlice)) (had : List OciSignature) : Prop :=
  ∀ value slice, list = .ok (some value) → value.slice = .ok slice → slice.getD [] = had

/-- The condition for a list to be saved: `Get` does not fail if there is something, and what it
returns agrees with the image of the list. -/
structure Kept (pem : PemLoader) (list : Except GoError (Option SignatureSlice))
    (had : List OciSignature) : Prop where
  /-- `Get` does not fail if there is something. -/
  read : ∀ value err, list = .ok (some value) → value.slice = .error err → had = []
  /-- `Get` agrees with the image. -/
  agrees : ∀ value sl, list = .ok (some value) → value.slice = .ok (some sl) →
    ∃ layers, value.image.published = .ok layers ∧
      List.Forall₂ SameContent sl (layers.map (downloaded pem))

theorem readsBack_none {had : List OciSignature} : ReadsBack had none ↔ had = [] := by
  constructor
  · rintro ⟨sl, read, same⟩
    cases read
    exact List.forall₂_nil_right_iff.mp same
  · intro nothing
    rw [nothing]
    exact ⟨[], rfl, .nil⟩

theorem readsBack_iff (saved : SavedList sigs (layout.byKind mark)) {had : List OciSignature}
    (has : Has (.ok (some sigs)) had) :
    ReadsBack had (layout.listByKind pem mark) ↔ Kept pem (.ok (some sigs)) had := by
  unfold Layout.listByKind
  cases got : sigs.slice with
  | error err =>
    rw [saved.empty (by rw [isEmpty, got]), Option.map_none, readsBack_none]
    refine ⟨fun nothing => ⟨fun _ _ _ _ => nothing, fun value sl same read => ?_⟩, fun kept => ?_⟩
    · cases same
      rw [got] at read
      cases read
    · exact kept.read sigs err rfl got
  | ok pointer =>
    have hadIs := has sigs pointer rfl got
    cases pointer with
    | none =>
      rw [saved.empty (by rw [isEmpty, got]), Option.map_none, readsBack_none]
      refine iff_of_true hadIs.symm ⟨fun _ _ _ _ => hadIs.symm, fun value sl same read => ?_⟩
      cases same
      rw [got] at read
      cases read
    | some sl =>
      obtain ⟨manifest, found, published⟩ := saved.full (isEmpty_eq_false.mpr ⟨sl, got⟩)
      rw [found, Option.map_some]
      subst hadIs
      constructor
      · rintro ⟨layers, read, same⟩
        cases sigsGet_ofStored.symm.trans read
        refine ⟨fun value err same failed => ?_, fun value other is read => ?_⟩
        · cases same
          rw [got] at failed
          cases failed
        · cases is
          rw [got] at read
          cases read
          exact ⟨manifest.layers, published, same⟩
      · intro kept
        obtain ⟨layers, published', same⟩ := kept.agrees sigs sl rfl got
        cases published.symm.trans published'
        exact ⟨_, sigsGet_ofStored, same⟩

/-- **What a save keeps.** A save that succeeds keeps the digest, and it keeps both lists exactly
when for each of them `Get` agrees with the image, and does not fail while there is something: a
failure is taken for an empty list. A save panics only on a nil list. -/
theorem save_keeps_iff (se : SavedEntity) (faults : SaveFaults) :
    (∀ layout, se.write faults = .ok (.ok layout) → ∀ pem,
      (LocalEntity.ofLayout pem layout).digest = se.digest ∧
      ∀ sigs atts, Has se.signatures sigs → Has se.attestations atts →
        (ReadsBack sigs (layout.listByKind pem sigsAnnotation) ∧
          ReadsBack atts (layout.listByKind pem attsAnnotation) ↔
        Kept pem se.signatures sigs ∧ Kept pem se.attestations atts)) ∧
    ∀ panic, se.write faults = .error panic →
      se.signatures = .ok none ∨ se.attestations = .ok none := by
  refine ⟨fun layout saved pem => ?_, fun panic ran => write_panics ran⟩
  have written := write_eq_ok saved
  refine ⟨written.digest pem, fun sigs atts hasSigs hasAtts => ?_⟩
  obtain ⟨sigsValue, sigsGiven, sigsSaved⟩ := written.signatures
  obtain ⟨attsValue, attsGiven, attsSaved⟩ := written.attestations
  rw [sigsGiven] at hasSigs ⊢
  rw [attsGiven] at hasAtts ⊢
  exact and_congr (readsBack_iff sigsSaved hasSigs) (readsBack_iff attsSaved hasAtts)

/-- A stored signature without certificate and bundle. -/
def savedLayer : StoredLayer :=
  ⟨⟨simpleSigningMediaType, sampleImage, AList.singleton sigkey "AQ=="⟩, samplePayload⟩

/-- The list of that signature. -/
def savedSignatures : SignatureSlice :=
  ⟨.ofStored [savedLayer], .ok sampleImage, .ok (some [downloaded sampleLoader savedLayer])⟩

/-- `empty.Signatures()`, whose `Get` returns a nil slice. -/
def emptySlice : SignatureSlice := ⟨.empty, .ok sampleImage, .ok none⟩

/-- An image with a list of signatures and no attestations. -/
def savedImage (sigs : SignatureSlice) : SavedEntity where
  kind := .image
  digest := .ok sampleImage
  contents := .ok []
  signatures := .ok (some sigs)
  attestations := .ok (some emptySlice)

/-- The image has a signature and `Get` fails once: the save succeeds, and the layout has no
signatures. -/
theorem unreadable_signatures_dropped : ∃ layout,
    (savedImage { savedSignatures with slice := .error ⟨"unexpected EOF"⟩ }).write {} =
      .ok (.ok layout) ∧
    savedSignatures.image.published = .ok [savedLayer] ∧
    ReadsBack [] (layout.listByKind sampleLoader sigsAnnotation) ∧
    ¬ReadsBack [downloaded sampleLoader savedLayer]
      (layout.listByKind sampleLoader sigsAnnotation) := by
  refine ⟨_, rfl, published_ofStored, readsBack_none.mpr rfl, fun readBack => ?_⟩
  exact List.cons_ne_nil _ _ (readsBack_none.mp readBack)

/-! ## Verification of what was saved -/

/-- What is verified of a list: its `Get`. -/
def verifiedList (sigs : SignatureSlice) : Verify.Signatures := .ofList sigs.signatures

/-- The elements of a list agree with its image, and their accessors with their annotations. -/
def Faithful (pem : PemLoader) (sigs : SignatureSlice) : Prop :=
  ∀ sl, sigs.slice = .ok (some sl) → Coherent sigs.signatures ∧ ∀ sig ∈ sl, MeansSame pem sig

/-- Two runs return normally, with the same accepted entries, and both or neither with an
error. -/
def SameVerdict (saved own : Call Outcome) : Prop :=
  ∃ left right, saved = .ok left ∧ own = .ok right ∧ left.2.1 = right.2.1 ∧
    left.2.2.2.isSome = right.2.2.2.isSome

/-- The condition for a saved list to verify like the list itself: the list itself is verified
without a panic, and either it is not nil, or nothing can be verified and it is rejected too. -/
def Verifiable (co : CheckOpts) (sigs : SignatureSlice) (own : Call Outcome) : Prop :=
  ∃ out, own = .ok out ∧
    if co.rootCerts.isNone && co.sigVerifier.isNone then out.2.1 = [] ∧ out.2.2.2.isSome
    else ∃ sl, sigs.slice = .ok (some sl)

theorem listByKind_verified {sl : List OciSignature} (faithful : Faithful pem sigs)
    (saved : SavedList sigs (layout.byKind mark)) (got : sigs.slice = .ok (some sl)) :
    (layout.listByKind pem mark).map Verify.Signatures.ofList =
      some (verifiedList sigs) := by
  obtain ⟨coherent, means⟩ := faithful sl got
  obtain ⟨manifest, found, published⟩ := saved.full (isEmpty_eq_false.mpr ⟨sl, got⟩)
  unfold Layout.listByKind
  rw [found, Option.map_some, Option.map_some]
  refine congrArg some (get_downloaded coherent (fun sl' read => ?_) published).symm
  have same : sigs.signatures.get = .ok sl := by
    unfold SignatureSlice.signatures
    rw [got]
    rfl
  cases same.symm.trans read
  exact means

theorem listByKind_nil (saved : SavedList sigs (layout.byKind mark)) (empty : isEmpty sigs = true) :
    layout.listByKind pem mark = none := by
  unfold Layout.listByKind
  rw [saved.empty empty]
  rfl

theorem sameVerdict_iff {co : CheckOpts} (faithful : Faithful pem sigs)
    (saved : SavedList sigs (layout.byKind mark)) (err : GoError)
    (verify : Verify.Signatures → Call Outcome) :
    SameVerdict
      (if co.rootCerts.isNone && co.sigVerifier.isNone then .ok (.failed co err)
      else deref ((layout.listByKind pem mark).map Verify.Signatures.ofList) >>= verify)
      (verify (verifiedList sigs)) ↔
    Verifiable co sigs (verify (verifiedList sigs)) := by
  unfold SameVerdict Verifiable
  cases co.rootCerts.isNone && co.sigVerifier.isNone with
  | true =>
    simp only [if_true]
    constructor
    · intro same
      obtain ⟨left, right, failed, own, entries, errs⟩ := same
      cases failed
      exact ⟨right, own, entries.symm, errs.symm⟩
    · rintro ⟨out, own, entries, errs⟩
      exact ⟨_, out, rfl, own, entries.symm, errs.symm⟩
  | false =>
    simp only [Bool.false_eq_true, if_false]
    cases whether : isEmpty sigs with
    | true =>
      rw [listByKind_nil saved whether]
      refine iff_of_false (fun same => ?_) fun full => ?_
      · obtain ⟨left, right, panics, -⟩ := same
        cases panics
      · obtain ⟨out, own, full⟩ := full
        rw [isEmpty_eq_false.mpr full] at whether
        cases whether
    | false =>
      obtain ⟨sl, got⟩ := isEmpty_eq_false.mp whether
      rw [listByKind_verified faithful saved got, deref_some_bind]
      constructor
      · rintro ⟨left, right, _, own, -⟩
        exact ⟨right, own, sl, got⟩
      · rintro ⟨out, own, -⟩
        exact ⟨out, out, own, own, rfl, rfl⟩

theorem verifyLocalImageSignatures_saved {registry : Registry} {path : String} {h : Hash}
    (digest : (LocalEntity.ofLayout pem layout).digest = .ok h)
    (read : registry.signedImageIndex path = .ok (.ofLayout pem layout)) (p : Platform)
    (co : CheckOpts) :
    verifyLocalImageSignatures p registry path co =
      if co.rootCerts.isNone && co.sigVerifier.isNone then
        .ok (Outcome.failed co ⟨"one of verifier or root certs is required"⟩)
      else deref ((layout.listByKind pem sigsAnnotation).map Verify.Signatures.ofList) >>=
        fun sigs => verifySignatures p sigs h co := by
  unfold verifyLocalImageSignatures
  simp only [read, digest]
  rfl

theorem verifyLocalImageAttestations_saved {registry : Registry} {path : String} {h : Hash}
    (digest : (LocalEntity.ofLayout pem layout).digest = .ok h)
    (read : registry.signedImageIndex path = .ok (.ofLayout pem layout)) (p : Platform)
    (co : CheckOpts) :
    verifyLocalImageAttestations p registry path co =
      if co.rootCerts.isNone && co.sigVerifier.isNone then
        .ok (Outcome.failed co ⟨"one of verifier or root certs is required"⟩)
      else deref ((layout.listByKind pem attsAnnotation).map Verify.Signatures.ofList) >>=
        fun atts => verifyImageAttestations p atts h co := by
  unfold verifyLocalImageAttestations
  simp only [read, digest]
  rfl

/-- **When a saved entity verifies like the original.** After a save that succeeded, the layout is
verified with the same accepted entries, or is rejected where the entity is, exactly under
`Verifiable`: in particular the list must not be nil, which is what an entity without signatures
has. The lists agree with their images and annotations. -/
theorem saved_verifies_iff (saved : se.write faults = .ok (.ok layout)) {h : Hash}
    (digest : se.digest = .ok h) {registry : Registry} {path : String}
    (read : registry.signedImageIndex path = .ok (.ofLayout pem layout)) (p : Platform)
    (co : CheckOpts) :
    ∃ sigs atts, se.signatures = .ok (some sigs) ∧ se.attestations = .ok (some atts) ∧
      (Faithful pem sigs →
        (SameVerdict (verifyLocalImageSignatures p registry path co)
          (verifySignatures p (verifiedList sigs) h co) ↔
        Verifiable co sigs (verifySignatures p (verifiedList sigs) h co))) ∧
      (Faithful pem atts →
        (SameVerdict (verifyLocalImageAttestations p registry path co)
          (verifyImageAttestations p (verifiedList atts) h co) ↔
        Verifiable co atts (verifyImageAttestations p (verifiedList atts) h co))) := by
  have written := write_eq_ok saved
  obtain ⟨sigs, sigsGiven, sigsSaved⟩ := written.signatures
  obtain ⟨atts, attsGiven, attsSaved⟩ := written.attestations
  have known : (LocalEntity.ofLayout pem layout).digest = .ok h := by
    rw [written.digest pem, digest]
  refine ⟨sigs, atts, sigsGiven, attsGiven, fun faithful => ?_, fun faithful => ?_⟩
  · rw [verifyLocalImageSignatures_saved known read]
    exact sameVerdict_iff faithful sigsSaved _ fun list => verifySignatures p list h co
  · rw [verifyLocalImageAttestations_saved known read]
    exact sameVerdict_iff faithful attsSaved _ fun list => verifyImageAttestations p list h co

/-- A reader of one layout. -/
def readerOf (layout : Layout) : Registry where
  parseReference _ := .error ⟨"could not parse reference"⟩
  signedEntity _ _ := .error ⟨"unsupported"⟩
  signedImageIndex _ := .ok (.ofLayout sampleLoader layout)

/-- An image without signatures is saved; verifying the layout panics, and verifying the image
returns an error. -/
theorem unsigned_layout_panics : ∃ layout, (savedImage emptySlice).write {} = .ok (.ok layout) ∧
    verifyLocalImageSignatures samplePlatform (readerOf layout) "dir" sampleKeyOpts =
      .error .nilDereference ∧
    Returns (verifySignatures samplePlatform (verifiedList emptySlice) sampleImage
      sampleKeyOpts) :=
  ⟨_, rfl, rfl, _, rfl⟩

/-- An image with a signature verifies like the original. -/
theorem saved_verifies_iff_signed : ∃ layout,
    (savedImage savedSignatures).write {} = .ok (.ok layout) ∧
    SameVerdict (verifyLocalImageSignatures samplePlatform (readerOf layout) "dir" sampleKeyOpts)
      (verifySignatures samplePlatform (verifiedList savedSignatures) sampleImage
        sampleKeyOpts) := by
  obtain ⟨layout, saved⟩ : ∃ layout,
      (savedImage savedSignatures).write {} = .ok (.ok layout) := ⟨_, rfl⟩
  have returns : Returns (verifySignatures samplePlatform (verifiedList savedSignatures)
      sampleImage sampleKeyOpts) := by
    decide +kernel
  obtain ⟨out, own⟩ := returns
  obtain ⟨sigs, atts, given, _, same, _⟩ := saved_verifies_iff saved rfl
    (show (readerOf layout).signedImageIndex "dir" = _ from rfl) samplePlatform sampleKeyOpts
  cases given
  refine ⟨layout, saved, (same fun sl got => ?_).mpr ⟨out, own, _, rfl⟩⟩
  cases got
  refine ⟨coherent_sigs, fun sig inside => ?_⟩
  rw [List.mem_singleton.mp inside]
  exact meansSame_downloaded

end Cosign.Verif
