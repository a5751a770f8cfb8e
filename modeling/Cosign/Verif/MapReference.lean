import Cosign.Verif.Map

/-!
# `Map` is its reference

For callbacks that return no error a run of `Map` is exactly what the reference says, and it ends
unless the callback makes the tree deeper and deeper (`map_eq_reference`).
-/
namespace Cosign.Verif

open Cosign.Go Cosign.Oci Cosign.Spec

variable {σ : Type} {fn : Visit → σ → Reply × σ}
  {checksum : IndexHeader → List ManifestDescriptor → Hash × Int}
  {manifest : Manifest SignedIndex} {manifests : List (Manifest SignedIndex)}
  {progress : Progress} {history after : History σ Visit Reply} {trace : Trace}
  {nested : Nat → SignedIndex → Trace → Option Entity → Prop}

/-! ## Finite trees -/

theorem sizeOf_listed (handle : Handle) (im : IndexHeader) {x : SignedIndex}
    (inside : manifest ∈ manifests) (listed : listedEntity manifest = some (.index x)) :
    sizeOf x < sizeOf (SignedIndex.mk handle (.ok (im, manifests))) := by
  have read := (listedEntity_index.mp listed).2
  have smaller := List.sizeOf_lt_of_mem inside
  obtain ⟨desc, signedImage, signedImageIndex⟩ := manifest
  simp only at read
  rw [read] at smaller
  simp only [Manifest.mk.sizeOf_spec, Except.ok.sizeOf_spec] at smaller
  simp only [SignedIndex.mk.sizeOf_spec, Except.ok.sizeOf_spec, Prod.mk.sizeOf_spec]
  omega

theorem exists_fits (se : Entity) : ∃ depth, Fits depth se := by
  have bounded : ∀ depth sii, sizeOf sii < depth → Fits depth (.index sii) := by
    intro depth
    induction depth with
    | zero => exact fun sii small => absurd small (Nat.not_lt_zero _)
    | succ depth ih =>
      intro sii small im manifests contents manifest inside x listed
      obtain ⟨handle, indexManifest⟩ := sii
      rw [show indexManifest = .ok (im, manifests) from contents] at small
      have smaller := sizeOf_listed handle im inside listed
      exact ih x (by omega)
  cases se with
  | image si => exact ⟨1, trivial⟩
  | index sii => exact ⟨sizeOf sii + 1, bounded _ sii (Nat.lt_succ_self _)⟩

theorem fits_mono {depth stack : Nat} {se : Entity} (fits : Fits depth se) (room : depth ≤ stack) :
    Fits stack se := by
  induction stack generalizing depth se with
  | zero =>
    rw [Nat.le_zero.mp room] at fits
    exact fits
  | succ stack ih =>
    cases depth with
    | zero => exact fits.elim
    | succ depth =>
      cases se with
      | image si => trivial
      | index sii =>
        intro im manifests contents manifest inside x listed
        exact ih (fits im manifests contents manifest inside x listed) (Nat.le_of_succ_le_succ room)

/-! ## What the reference says is done -/

section

variable (kind : ∀ visit state se, (fn visit state).1.entity = some se →
    se.kind = visit.entity.kind)
  (errorless : ∀ visit state, (fn visit state).1.err = none)

include errorless in
theorem answer_errorless {visit : Visit} {entity : Option Entity} {err : Option MapError}
    (asks : history.ask fn visit = (⟨entity, err⟩, after)) : err = none := by
  have silent := errorless visit history.state
  rw [ask_reply asks] at silent
  exact silent

include kind in
theorem answer_kind {visit : Visit} {kept : Entity} {err : Option MapError}
    (asks : history.ask fn visit = (⟨some kept, err⟩, after)) : kept.kind = visit.entity.kind :=
  kind visit history.state kept (congrArg Reply.entity (ask_reply asks))

include kind errorless

theorem mapManifest_of_maps (progress : Progress)
    {visit : SignedIndex → History σ Visit Reply → Call (Reply × History σ Visit Reply)}
    {result : Option Entity}
    (visits : ∀ x history trace result after, nested history.calls.length x trace result →
      Records fn history trace after → visit x history = .ok (⟨result, none⟩, after) ∧
        ∀ kept, result = some kept → kept.kind = .index)
    (maps : MapsChild nested history.calls.length manifest trace result)
    (records : Records fn history trace after) :
    ∃ final, mapManifest fn visit manifest progress history = .ok (.ok final, after) ∧
      final.adds = progress.adds ++ (survivors [manifest] [result]).map addendumOf ∧
      (final.changed = true ↔ progress.changed = true ∨ ¬Intact [manifest] [result]) := by
  unfold mapManifest
  cases maps with
  | @index x _ _ listed maps =>
    have read := listedEntity_index.mp listed
    obtain ⟨ran, kept⟩ := visits x history trace result after maps records
    obtain ⟨final, keeps, collects⟩ := keepChild_eq_ok listed kept
    refine ⟨final, ?_, collects⟩
    have keepsIndex : keepChild .index manifest.desc x.handle ⟨result, none⟩ progress = _ := keeps
    simp only [read.1, read.2, ran, bind, Except.bind, keepsIndex]
  | @image x listed reply =>
    have read := listedEntity_image.mp listed
    obtain ⟨next, asks, -, rest⟩ := records.first
    rw [← records_nil.mp rest] at asks
    obtain ⟨entity, err⟩ := reply
    rw [answer_errorless errorless asks] at asks
    have kept : ∀ kept, entity = some kept → kept.kind = .image := by
      intro kept keptIs
      rw [keptIs] at asks
      exact answer_kind kind asks
    obtain ⟨final, keeps, collects⟩ := keepChild_eq_ok listed kept
    refine ⟨final, ?_, collects⟩
    have keepsImage : keepChild .image manifest.desc x ⟨entity, none⟩ progress = _ := keeps
    simp only [read.1, read.2, asks, bind, Except.bind, keepsImage]

theorem mapManifests_of_maps (progress : Progress)
    {visit : SignedIndex → History σ Visit Reply → Call (Reply × History σ Visit Reply)}
    {results : List (Option Entity)}
    (visits : ∀ x history trace result after, nested history.calls.length x trace result →
      Records fn history trace after → visit x history = .ok (⟨result, none⟩, after) ∧
        ∀ kept, result = some kept → kept.kind = .index)
    (maps : MapsChildren nested history.calls.length manifests trace results)
    (records : Records fn history trace after) :
    ∃ final, mapManifests fn visit manifests progress history = .ok (.ok final, after) ∧
      final.adds = progress.adds ++ (survivors manifests results).map addendumOf ∧
      (final.changed = true ↔ progress.changed = true ∨ ¬Intact manifests results) := by
  induction manifests generalizing progress history trace results with
  | nil =>
    cases maps
    have intact : Intact [] [] := .nil
    refine ⟨progress, ?_, (List.append_nil _).symm, ?_⟩
    · rw [records_nil.mp records]
      rfl
    · rw [or_iff_left (not_not_intro intact)]
  | cons manifest rest ih =>
    cases maps with
    | @cons _ _ _ trace traces result results childMaps restMaps =>
      obtain ⟨between, childRecords, restRecords⟩ := records_append.mp records
      rw [← childRecords.length] at restMaps
      obtain ⟨middle, ran, adds, changed⟩ :=
        mapManifest_of_maps kind errorless progress visits childMaps childRecords
      obtain ⟨final, ranRest, restAdds, restChanged⟩ := ih middle restMaps restRecords
      refine ⟨final, ?_, ?_, ?_⟩
      · unfold mapManifests
        rw [ran]
        exact ranRest
      · rw [restAdds, adds, survivors_cons manifest rest result, List.map_append, List.append_assoc]
      · rw [restChanged, changed, intact_cons manifest rest result, not_and_or, or_assoc]

/-- **`Map` does what the reference says.** -/
theorem mapEntity_of_maps {stack : Nat} {se : Entity} {result : Option Entity}
    (maps : Maps (rebuild checksum) stack history.calls.length se trace result)
    (records : Records fn history trace after) :
    mapEntity checksum fn stack se history = .ok (⟨result, none⟩, after) ∧
      ∀ kept, result = some kept → kept.kind = se.kind := by
  induction stack generalizing se history trace result after with
  | zero => exact maps.elim
  | succ stack ih =>
    have visits : ∀ x history trace result after,
        Maps (rebuild checksum) stack history.calls.length (.index x) trace result →
        Records fn history trace after →
        mapEntity checksum fn stack (.index x) history = .ok (⟨result, none⟩, after) ∧
          ∀ kept, result = some kept → kept.kind = .index :=
      fun x history trace result after maps records => ih maps records
    unfold mapEntity
    cases maps with
    | filtered =>
      obtain ⟨next, asks, -, rest⟩ := records.first
      rw [← records_nil.mp rest] at asks
      simp [asks]
    | skipped kept err skips =>
      obtain ⟨next, asks, -, rest⟩ := records.first
      cases answer_errorless errorless asks
    | image si =>
      obtain ⟨next, asks, -, rest⟩ := records.first
      rw [← records_nil.mp rest] at asks
      refine ⟨by simp [asks], fun kept keptIs => ?_⟩
      rw [← Option.some.inj keptIs]
      exact answer_kind kind asks
    | @unchanged sii im manifests trace results contents each intact =>
      obtain ⟨next, asks, counted, rest⟩ := records.first
      rw [← counted] at each
      obtain ⟨final, ran, adds, changed⟩ :=
        mapManifests_of_maps kind errorless ⟨false, []⟩ visits each rest
      have same : final.changed = false := by
        simpa [intact] using changed
      refine ⟨?_, fun kept keptIs => ?_⟩
      · simp [asks, contents, ran, same, bind, Except.bind]
      · rw [← Option.some.inj keptIs]
        exact answer_kind kind asks
    | @rebuilt sii im manifests trace results new contents each changes built lists reply =>
      obtain ⟨next, asks, counted, rest⟩ := records.first
      obtain ⟨between, loopRecords, last⟩ := records_append.mp rest
      rw [← counted] at each built
      obtain ⟨final, ran, adds, changed⟩ :=
        mapManifests_of_maps kind errorless ⟨false, []⟩ visits each loopRecords
      have differs : final.changed = true := by
        simpa [changes] using changed
      have collected : final.adds = (survivors manifests results).map addendumOf := adds
      rw [← loopRecords.length, rebuild, ← collected] at built
      obtain ⟨done, asksAgain, -, nothing⟩ := last.first
      rw [← records_nil.mp nothing, built] at asksAgain
      obtain ⟨entity, err⟩ := reply
      rw [answer_errorless errorless asksAgain] at asksAgain
      refine ⟨?_, fun kept keptIs => ?_⟩
      · simp [asks, contents, ran, differs, asksAgain, bind, Except.bind]
      · rw [show entity = some kept from keptIs] at asksAgain
        have isIndex := answer_kind kind asksAgain
        exact isIndex.trans (answer_kind kind asks)

end

/-! ## Callbacks that keep everything -/

/-- Every call is answered by the entity it was made on. -/
def AllKept (trace : Trace) : Prop :=
  ∀ exchange ∈ trace, exchange.reply = ⟨some exchange.asked.entity, none⟩

theorem allKept_append {first second : Trace} :
    AllKept (first ++ second) ↔ AllKept first ∧ AllKept second :=
  List.forall_mem_append

theorem walks_of_mapsChildren {calls : Nat} {results : List (Option Entity)}
    {walks : SignedIndex → Trace → Prop}
    (visits : ∀ calls x trace result, nested calls x trace result → AllKept trace →
      result = some (.index x) ∧ walks x trace)
    (maps : MapsChildren nested calls manifests trace results) (kept : AllKept trace) :
    Intact manifests results ∧ WalksChildren walks manifests trace := by
  induction maps with
  | nil calls => exact ⟨.nil, .nil⟩
  | cons first rest ih =>
    obtain ⟨keptFirst, keptRest⟩ := allKept_append.mp kept
    obtain ⟨intact, walksRest⟩ := ih keptRest
    cases first with
    | index listed maps =>
      obtain ⟨resultIs, walksFirst⟩ := visits _ _ _ _ maps keptFirst
      exact ⟨.cons ⟨_, _, resultIs, listed, rfl⟩ intact, .cons (.index listed walksFirst) walksRest⟩
    | image listed reply =>
      have replyIs := keptFirst _ (List.mem_singleton_self _)
      dsimp only at replyIs
      rw [replyIs]
      exact ⟨.cons ⟨_, _, rfl, listed, rfl⟩ intact, .cons (.image listed _) walksRest⟩

/-- **Where everything is kept, a map is a walk** and returns what it is given. -/
theorem walks_of_maps {build : Nat → IndexHeader → List Survivor → SignedIndex}
    {depth calls : Nat} {se : Entity} {result : Option Entity}
    (maps : Maps build depth calls se trace result) (kept : AllKept trace) :
    result = some se ∧ Walks depth se trace := by
  induction depth generalizing calls se trace result with
  | zero => exact maps.elim
  | succ depth ih =>
    have visits : ∀ calls x trace result, Maps build depth calls (.index x) trace result →
        AllKept trace → result = some (.index x) ∧ Walks depth (.index x) trace :=
      fun calls x trace result maps kept => ih maps kept
    cases maps with
    | filtered => cases kept _ (List.mem_singleton_self _)
    | skipped entity err skips =>
      have silent := congrArg Reply.err (kept _ (List.mem_singleton_self _))
      cases silent
    | image si =>
      cases kept _ (List.mem_singleton_self _)
      exact ⟨rfl, .image si _⟩
    | unchanged contents each intact =>
      have first := kept _ List.mem_cons_self
      cases first
      have walks := walks_of_mapsChildren visits each fun other inside =>
        kept other (List.mem_cons_of_mem _ inside)
      exact ⟨rfl, .index contents rfl walks.2⟩
    | rebuilt contents each changes built lists reply =>
      have rest : AllKept _ := fun other inside => kept other (List.mem_cons_of_mem _ inside)
      have walks := walks_of_mapsChildren visits each (allKept_append.mp rest).1
      exact absurd walks.1 changes

/-! ## Runs -/

theorem unskipped_errorless (errorless : ∀ visit state, (fn visit state).1.err = none)
    (records : Records fn history trace after) : Unskipped trace := by
  have silent : ∀ exchange ∈ trace, exchange.reply.err = none := records.all errorless
  exact fun exchange inside _ => silent exchange inside

section

variable (obeys : Obeys fn) {root : Entity} (sound : Sound root)

include obeys sound

theorem mapEntity_panics {stack : Nat} {panic : Panic}
    (ran : mapEntity checksum fn stack root history = .error panic) : panic = stackOverflow := by
  have run := mapEntity_runs checksum obeys stack sound history
  rw [ran] at run
  cases run
  rfl

/-- With a callback that puts no deeper index in the place of another, a run with enough stack
ends. -/
theorem mapEntity_returns (checksum : IndexHeader → List ManifestDescriptor → Hash × Int)
    (shallow : Shallow fn) (history : History σ Visit Reply) : ∃ depth, ∀ stack, depth ≤ stack →
    Returns (mapEntity checksum fn stack root history) := by
  obtain ⟨depth, fits⟩ := exists_fits root
  refine ⟨depth, fun stack room => ?_⟩
  have run := mapEntity_runs checksum obeys stack sound history
  generalize mapEntity checksum fn stack root history = outcome at run
  cases run with
  | overflows full => exact absurd ⟨shallow, fits_mono fits room⟩ full
  | follows records maps unskipped kept => exact returns_ok _
  | escapes records escaped skips => exact returns_ok _

/-- Without errors of the callback a run returns exactly what the reference says, after exactly its
calls. -/
theorem mapEntity_eq_ok (errorless : ∀ visit state, (fn visit state).1.err = none) {stack : Nat}
    {reply : Reply} : mapEntity checksum fn stack root history = .ok (reply, after) ↔
      reply.err = none ∧ ∃ trace, Records fn history trace after ∧
        Maps (rebuild checksum) stack history.calls.length root trace reply.entity := by
  constructor
  · intro ran
    have run := mapEntity_runs checksum obeys stack sound history
    rw [ran] at run
    cases run with
    | follows records maps unskipped kept => exact ⟨rfl, _, records, maps⟩
    | escapes records escaped skips =>
      exact absurd (unskipped_before.mp (unskipped_errorless errorless records)) escaped
  · rintro ⟨fine, trace, records, maps⟩
    obtain ⟨entity, err⟩ := reply
    rw [show err = none from fine]
    exact (mapEntity_of_maps obeys.kind errorless maps records).1

/-- A callback that keeps everything is called once on each entity, and the very tree is
returned. -/
theorem mapEntity_keeps (checksum : IndexHeader → List ManifestDescriptor → Hash × Int)
    (keeps : ∀ visit state, (fn visit state).1 = ⟨some visit.entity, none⟩)
    (history : History σ Visit Reply) :
    ∃ stack trace after, mapEntity checksum fn stack root history = .ok (⟨some root, none⟩, after) ∧
      Records fn history trace after ∧ Walks stack root trace ∧ AllKept trace := by
  have errorless : ∀ visit state, (fn visit state).1.err = none := by
    intro visit state
    rw [keeps]
  have shallow : Shallow fn := by
    apply Shallow.of_same
    intro visit state se returned
    rw [keeps] at returned
    exact (Option.some.inj returned).symm
  obtain ⟨depth, returns⟩ := mapEntity_returns obeys sound checksum shallow history
  obtain ⟨⟨reply, after⟩, ran⟩ := returns depth (Nat.le_refl depth)
  obtain ⟨fine, trace, records, maps⟩ := (mapEntity_eq_ok obeys sound errorless).mp ran
  have kept : AllKept trace := records.all keeps
  obtain ⟨returned, walks⟩ := walks_of_maps maps kept
  obtain ⟨entity, err⟩ := reply
  rw [show entity = some root from returned, show err = none from fine] at ran
  exact ⟨depth, trace, after, ran, records, walks, kept⟩

end

/-- **`Map` is its recursive reference.** For every tree of images and indexes with known media
types and every callback that returns no error and nil or a tree of the kind it is given, a run of
`Map` returns exactly what the reference says, after exactly its calls; with a callback that puts no
deeper index in the place of another it ends. A callback that keeps everything is called once on
each entity, an index before its children, and the very entity is returned. -/
theorem map_eq_reference (checksum : IndexHeader → List ManifestDescriptor → Hash × Int)
    (fn : Visit → σ → Reply × σ) (obeys : Obeys fn)
    (errorless : ∀ visit state, (fn visit state).1.err = none) {root : Entity} (sound : Sound root)
    (history : History σ Visit Reply) :
    (∀ stack reply after, mapEntity checksum fn stack root history = .ok (reply, after) ↔
      reply.err = none ∧ ∃ trace, Records fn history trace after ∧
        Maps (rebuild checksum) stack history.calls.length root trace reply.entity) ∧
    (∀ stack panic, mapEntity checksum fn stack root history = .error panic →
      panic = stackOverflow) ∧
    (Shallow fn → ∃ depth, ∀ stack, depth ≤ stack →
      Returns (mapEntity checksum fn stack root history)) ∧
    ((∀ visit state, (fn visit state).1 = ⟨some visit.entity, none⟩) →
      ∃ stack trace after, mapEntity checksum fn stack root history =
          .ok (⟨some root, none⟩, after) ∧
        Records fn history trace after ∧ Walks stack root trace ∧ AllKept trace) :=
  ⟨fun _ _ _ => mapEntity_eq_ok obeys sound errorless,
    fun _ _ => mapEntity_panics obeys sound,
    fun shallow => mapEntity_returns obeys sound checksum shallow history,
    fun keeps => mapEntity_keeps obeys sound checksum keeps history⟩

/-! ## A sample tree -/

/-- An entity with a number. -/
def numbered (number : Nat) : Handle :=
  ⟨.given number, .ok 1, .ok ⟨"sha256", toString number⟩, .ok "", .ok (.ok emptySignatures),
    .ok (.ok emptySignatures)⟩

/-- An index that lists some manifests. -/
def indexOf (number : Nat) (manifests : List (Manifest SignedIndex)) : SignedIndex :=
  .mk (numbered number) (.ok (⟨"application/vnd.oci.image.index.v1+json", ∅⟩, manifests))

/-- A manifest that stands for an image. -/
def listsImage (number : Nat) : Manifest SignedIndex :=
  ⟨⟨⟨"application/vnd.oci.image.manifest.v1+json", ⟨"sha256", toString number⟩, ∅⟩, 1, [], none⟩,
    .ok (numbered number), .error emptyIndex⟩

/-- A manifest that stands for an index. -/
def listsIndex (number : Nat) (manifests : List (Manifest SignedIndex)) : Manifest SignedIndex :=
  ⟨⟨⟨"application/vnd.oci.image.index.v1+json", ⟨"sha256", toString number⟩, ∅⟩, 1, [], none⟩,
    .error emptyIndex, .ok (indexOf number manifests)⟩

theorem listedEntity_listsImage (number : Nat) :
    listedEntity (listsImage number) = some (.image (numbered number)) := by
  have typed : manifestKind "application/vnd.oci.image.manifest.v1+json" = some .image := by decide
  exact listedEntity_image.mpr ⟨typed, rfl⟩

theorem sound_indexOf (number : Nat)
    (below : ∀ manifest ∈ manifests, ∃ se, listedEntity manifest = some se ∧ Sound se) :
    Sound (.index (indexOf number manifests)) := by
  refine .index ⟨⟨_, rfl⟩, ⟨_, rfl⟩, ⟨_, rfl⟩⟩ ?_ ?_
  · intro manifest inside
    obtain ⟨se, listed, -⟩ := below manifest inside
    exact ⟨se, listed⟩
  · intro manifest inside other listedOther
    obtain ⟨se, listed, sound⟩ := below manifest inside
    rw [listed] at listedOther
    rw [← Option.some.inj listedOther]
    exact sound

/-- An index of one image. -/
def imageIndex (number : Nat) : SignedIndex := indexOf number [listsImage (number + 1)]

theorem sound_imageIndex (number : Nat) : Sound (.index (imageIndex number)) := by
  apply sound_indexOf
  intro manifest inside
  rw [List.mem_singleton.mp inside]
  exact ⟨_, listedEntity_listsImage _, .image ⟨⟨_, rfl⟩, ⟨_, rfl⟩, ⟨_, rfl⟩⟩⟩

/-- A digest and a size for every manifest. -/
def sampleSum : IndexHeader → List ManifestDescriptor → Hash × Int :=
  fun _ descriptors => (⟨"sha256", "00"⟩, descriptors.length)

/-- A callback that filters images. -/
def filterImages (visit : Visit) (state : Unit) : Reply × Unit :=
  match visit with
  | .child _ => (⟨none, none⟩, state)
  | .before se => (⟨some se, none⟩, state)
  | .after sii => (⟨some (.index sii), none⟩, state)

theorem filterImages_same (visit : Visit) (state : Unit) (se : Entity)
    (returned : (filterImages visit state).1.entity = some se) : se = visit.entity := by
  cases visit with
  | before given => exact (Option.some.inj returned).symm
  | child si => cases returned
  | after sii => exact (Option.some.inj returned).symm

/-- The reference for an index of one image whose image is filtered. -/
theorem map_eq_reference_filter : ∃ stack reply after trace,
    mapEntity sampleSum filterImages stack (.index (imageIndex 1)) ⟨(), []⟩ = .ok (reply, after) ∧
      reply.err = none ∧ Records filterImages ⟨(), []⟩ trace after ∧
      Maps (rebuild sampleSum) stack 0 (.index (imageIndex 1)) trace reply.entity := by
  have errorless : ∀ visit state, (filterImages visit state).1.err = none := by
    intro visit state
    cases visit <;> rfl
  have obeys : Obeys filterImages := by
    refine .of_same (fun visit state err isErr => ?_) filterImages_same
    rw [errorless] at isErr
    cases isErr
  have reference := map_eq_reference sampleSum filterImages obeys errorless (sound_imageIndex 1)
    ⟨(), []⟩
  obtain ⟨depth, returns⟩ := reference.2.2.1 (.of_same filterImages_same)
  obtain ⟨⟨reply, after⟩, ran⟩ := returns depth (Nat.le_refl depth)
  obtain ⟨fine, trace, records, maps⟩ := (reference.1 depth reply after).mp ran
  exact ⟨depth, reply, after, trace, ran, fine, records, maps⟩

end Cosign.Verif
