import Cosign.Verif.MapReference

/-!
# Skipped children

`ErrSkipChildren` is understood by `Map` in the before pass only: from a call on a child image or in
the after pass it is returned like any other error (`skip_contained_iff`). `walk.SignedEntity`
returns nil beside an error, and `Map` takes the nil for a filtered child and builds the parent
anew, so that a walk visits what it should only if no index below the root is skipped
(`walk_prunes_iff`).
-/
namespace Cosign.Verif

open Cosign.Go Cosign.Oci Cosign.Spec

variable {σ : Type} {fn : Visit → σ → Reply × σ}
  {checksum : IndexHeader → List ManifestDescriptor → Hash × Int}
  {manifests : List (Manifest SignedIndex)} {history after : History σ Visit Reply} {trace : Trace}
  {build : Nat → IndexHeader → List Survivor → SignedIndex} {depth calls : Nat} {se : Entity}
  {result : Option Entity}

/-! ## Map -/

/-- **When `ErrSkipChildren` stays inside `Map`.** For every tree with known media types and every
callback whose only error is `ErrSkipChildren`, a run of `Map` that returns has no error and puts
what was returned beside `ErrSkipChildren` in the place of the entity, with its children left alone,
exactly when no call outside the before pass returned it; otherwise it is returned itself. With a
callback that puts no deeper index in the place of another a run ends. -/
theorem skip_contained_iff (checksum : IndexHeader → List ManifestDescriptor → Hash × Int)
    (obeys : Obeys fn) {root : Entity} (sound : Sound root) (history : History σ Visit Reply) :
    (∀ stack reply after, mapEntity checksum fn stack root history = .ok (reply, after) →
      ∃ trace, Records fn history trace after ∧
        (reply.err = none ∧
            Maps (rebuild checksum) stack history.calls.length root trace reply.entity ↔
          Unskipped trace) ∧
        ∀ err, reply.err = some err → err.skips = true) ∧
    (∀ stack panic, mapEntity checksum fn stack root history = .error panic →
      panic = stackOverflow) ∧
    (Shallow fn → ∃ depth, ∀ stack, depth ≤ stack →
      Returns (mapEntity checksum fn stack root history)) := by
  refine ⟨?_, fun _ _ => mapEntity_panics obeys sound,
    fun shallow => mapEntity_returns obeys sound checksum shallow history⟩
  intro stack reply after run
  have runs : MapRun fn (Maps (rebuild checksum) stack history.calls.length root)
      (Shallow fn ∧ Fits stack root) root history (mapEntity checksum fn stack root history) :=
    mapEntity_runs checksum obeys stack sound history
  rw [run] at runs
  cases runs with
  | follows records maps unskipped kept =>
    exact ⟨_, records, iff_of_true ⟨rfl, maps⟩ unskipped, nofun⟩
  | escapes records escaped skips =>
    refine ⟨_, records, iff_of_false ?_ ?_, ?_⟩
    · exact fun both => absurd both.1 (Option.some_ne_none _)
    · exact fun unskipped => escaped (unskipped_before.mp unskipped)
    · intro err errIs
      rw [← Option.some.inj errIs]
      exact skips

/-- A callback that returns `ErrSkipChildren` beside every image. -/
def skipImages (visit : Visit) (state : Unit) : Reply × Unit :=
  match visit with
  | .child si => (⟨some (.image si), some errSkipChildren⟩, state)
  | .before se => (⟨some se, none⟩, state)
  | .after sii => (⟨some (.index sii), none⟩, state)

/-- A callback that filters images and returns `ErrSkipChildren` beside an index in the after
pass. -/
def skipAfter (visit : Visit) (state : Unit) : Reply × Unit :=
  match visit with
  | .child _ => (⟨none, none⟩, state)
  | .before se => (⟨some se, none⟩, state)
  | .after sii => (⟨some (.index sii), some errSkipChildren⟩, state)

/-- `ErrSkipChildren` is returned by `Map` on an index of one image, when the callback returns it
for the image and when it does for the index in the after pass. -/
theorem skip_escapes :
    (∃ after, mapEntity sampleSum skipImages 1 (.index (imageIndex 1)) ⟨(), []⟩ =
      .ok (⟨none, some errSkipChildren⟩, after)) ∧
    ∃ entity after, mapEntity sampleSum skipAfter 1 (.index (imageIndex 1)) ⟨(), []⟩ =
      .ok (⟨some entity, some errSkipChildren⟩, after) :=
  ⟨⟨_, rfl⟩, _, _, rfl⟩

/-- A callback that returns `ErrSkipChildren` beside every entity of the before pass. -/
def skipBefore (visit : Visit) (state : Unit) : Reply × Unit :=
  match visit with
  | .before se => (⟨some se, some errSkipChildren⟩, state)
  | visit => (⟨some visit.entity, none⟩, state)

/-- `ErrSkipChildren` from the before pass stays inside `Map`. -/
theorem skip_contained_iff_before : ∃ after trace,
    mapEntity sampleSum skipBefore 1 (.index (imageIndex 1)) ⟨(), []⟩ =
      .ok (⟨some (.index (imageIndex 1)), none⟩, after) ∧
    Maps (rebuild sampleSum) 1 0 (.index (imageIndex 1)) trace
      (some (.index (imageIndex 1))) := by
  have obeys : Obeys skipBefore := by
    apply Obeys.of_same
    · intro visit state err isErr
      cases visit with
      | before se => exact (Option.some.inj isErr) ▸ rfl
      | child si => cases isErr
      | after sii => cases isErr
    · intro visit state se returned
      cases visit <;> exact (Option.some.inj returned).symm
  have run : mapEntity sampleSum skipBefore 1 (.index (imageIndex 1)) ⟨(), []⟩ =
      .ok (⟨some (.index (imageIndex 1)), none⟩, _) := rfl
  have ⟨trace, records, contained, _⟩ :=
    (skip_contained_iff sampleSum obeys (sound_imageIndex 1) ⟨(), []⟩).1 1 _ _ run
  have traceIs : trace = [⟨.before (.index (imageIndex 1)), _⟩] := records.calls.symm
  have quiet : Unskipped trace := by
    rw [traceIs]
    exact unskipped_before.mpr unskipped_nil
  exact ⟨_, trace, run, (contained.mpr quiet).2⟩

/-! ## Walks -/

/-- A function for a walk whose only error is `ErrSkipChildren`, on indexes. -/
def SkipsIndexes (fn : Visit → σ → Option MapError × σ) : Prop :=
  ∀ visit state err, (fn visit state).1 = some err →
    err.skips = true ∧ ∃ sii, visit.entity = .index sii

/-- A call of a walk: the entity is kept, or it is an index that is skipped. -/
def WalkCall (exchange : Exchange Visit Reply) : Prop :=
  exchange.reply = ⟨some exchange.asked.entity, none⟩ ∨
    ∃ err sii, exchange.reply = ⟨none, some err⟩ ∧ err.skips = true ∧
      exchange.asked.entity = .index sii

theorem walkFn_call {fn : Visit → σ → Option MapError × σ} (skips : SkipsIndexes fn)
    (visit : Visit) (state : σ) : WalkCall ⟨visit, (walkFn fn visit state).1⟩ := by
  unfold walkFn
  cases said : fn visit state with
  | mk err next =>
    cases err with
    | none => exact .inl rfl
    | some err =>
      obtain ⟨isSkip, sii, seIs⟩ := skips visit state err (congrArg Prod.fst said)
      exact .inr ⟨err, sii, rfl, isSkip, seIs⟩

theorem walkFn_same (fn : Visit → σ → Option MapError × σ) (visit : Visit) (state : σ)
    (se : Entity) (returned : (walkFn fn visit state).1.entity = some se) : se = visit.entity := by
  unfold walkFn at returned
  cases said : fn visit state with
  | mk err next =>
    rw [said] at returned
    cases err with
    | none => exact (Option.some.inj returned).symm
    | some err => cases returned

theorem obeys_walkFn {fn : Visit → σ → Option MapError × σ} (skips : SkipsIndexes fn) :
    Obeys (walkFn fn) := by
  refine .of_same (fun visit state err isErr => ?_) (walkFn_same fn)
  cases walkFn_call skips visit state with
  | inl kept =>
    have same : (walkFn fn visit state).1 = ⟨some visit.entity, none⟩ := kept
    rw [same] at isErr
    cases isErr
  | inr skipped =>
    obtain ⟨err', sii, replyIs, isSkip, -⟩ := skipped
    have same : (walkFn fn visit state).1 = ⟨none, some err'⟩ := replyIs
    rw [same] at isErr
    rw [← Option.some.inj isErr]
    exact isSkip

/-- A trace has a call of the after pass. -/
def HasAfter (trace : Trace) : Prop := ∃ exchange ∈ trace, ∃ sii, exchange.asked = .after sii

/-- Some call of a trace returned an error. -/
def HasError (trace : Trace) : Prop := ∃ exchange ∈ trace, exchange.reply.err ≠ none

/-- Where a child is skipped or fails below, the children do not stay as they are or an index is
built anew. -/
theorem hasAfter_of_mapsChildren {nested : Nat → SignedIndex → Trace → Option Entity → Prop}
    {calls : Nat} {results : List (Option Entity)}
    (visits : ∀ calls x trace result, nested calls x trace result →
      (∀ exchange ∈ trace, WalkCall exchange) → HasError trace → result = none ∨ HasAfter trace)
    (maps : MapsChildren nested calls manifests trace results)
    (walk : ∀ exchange ∈ trace, WalkCall exchange) (intact : Intact manifests results)
    (fails : HasError trace) : HasAfter trace := by
  induction maps with
  | nil calls =>
    obtain ⟨exchange, inside, -⟩ := fails
    cases inside
  | @cons calls manifest manifests trace traces result results first rest ih =>
    obtain ⟨walkFirst, walkRest⟩ := List.forall_mem_append.mp walk
    cases intact with
    | cons stays intact =>
      obtain ⟨exchange, inside, isErr⟩ := fails
      cases List.mem_append.mp inside with
      | inr later =>
        obtain ⟨found, foundIn, isAfter⟩ := ih walkRest intact ⟨exchange, later, isErr⟩
        exact ⟨found, List.mem_append_right _ foundIn, isAfter⟩
      | inl early =>
        cases first with
        | index listed maps =>
          cases visits _ _ _ _ maps walkFirst ⟨exchange, early, isErr⟩ with
          | inl gone =>
            obtain ⟨se, x, seIs, -⟩ := stays
            rw [gone] at seIs
            cases seIs
          | inr found =>
            obtain ⟨found, foundIn, isAfter⟩ := found
            exact ⟨found, List.mem_append_left _ foundIn, isAfter⟩
        | image listed reply =>
          rw [List.mem_singleton.mp early] at isErr
          cases walkFirst _ (List.mem_singleton_self _) with
          | inl kept => exact absurd (congrArg Reply.err kept) isErr
          | inr skipped =>
            obtain ⟨err, sii, -, -, isIndex⟩ := skipped
            cases isIndex

/-- Where some call of a walk fails, the entity itself is skipped or an index is built anew. -/
theorem hasAfter_of_maps (maps : Maps build depth calls se trace result)
    (walk : ∀ exchange ∈ trace, WalkCall exchange) (fails : HasError trace) :
    (result = none ∧ trace.tail = []) ∨ HasAfter trace := by
  induction depth generalizing calls se trace result with
  | zero => exact maps.elim
  | succ depth ih =>
    have visits : ∀ calls x trace result, Maps build depth calls (.index x) trace result →
        (∀ exchange ∈ trace, WalkCall exchange) → HasError trace →
        result = none ∨ HasAfter trace :=
      fun calls x trace result maps walk fails => (ih maps walk fails).imp And.left id
    cases maps with
    | filtered => exact .inl ⟨rfl, rfl⟩
    | skipped kept err skips =>
      cases walk _ (List.mem_singleton_self _) with
      | inl kept =>
        have silent := congrArg Reply.err kept
        cases silent
      | inr skipped =>
        obtain ⟨err', sii, replyIs, -⟩ := skipped
        exact .inl ⟨congrArg Reply.entity replyIs, rfl⟩
    | image si =>
      obtain ⟨exchange, inside, isErr⟩ := fails
      rw [List.mem_singleton.mp inside] at isErr
      exact absurd rfl isErr
    | unchanged contents each intact =>
      obtain ⟨exchange, inside, isErr⟩ := fails
      cases List.mem_cons.mp inside with
      | inl first =>
        rw [first] at isErr
        exact absurd rfl isErr
      | inr later =>
        obtain ⟨found, foundIn, isAfter⟩ := hasAfter_of_mapsChildren visits each
          (fun other inside => walk other (List.mem_cons_of_mem _ inside)) intact
          ⟨exchange, later, isErr⟩
        exact .inr ⟨found, List.mem_cons_of_mem _ foundIn, isAfter⟩
    | @rebuilt sii im manifests trace results new contents each changes built lists reply =>
      exact .inr ⟨⟨.after new, reply⟩, by simp, new, rfl⟩

theorem not_hasAfter_of_walks {depth : Nat} (walks : Walks depth se trace) :
    ¬HasAfter trace := by
  induction depth generalizing se trace with
  | zero => exact walks.elim
  | succ depth ih =>
    cases walks with
    | image si reply => simp [HasAfter]
    | skipped sii reply err skips => simp [HasAfter]
    | @index sii im manifests trace reply contents continues each =>
      have below : ¬HasAfter trace := by
        clear contents continues
        induction each with
        | nil => simp [HasAfter]
        | cons first rest restBelow =>
          rintro ⟨exchange, inside, isAfter⟩
          cases List.mem_append.mp inside with
          | inr later => exact restBelow ⟨exchange, later, isAfter⟩
          | inl early =>
            cases first with
            | index listed walks => exact ih walks ⟨exchange, early, isAfter⟩
            | image listed reply =>
              rw [List.mem_singleton.mp early] at isAfter
              obtain ⟨sii, isAfter⟩ := isAfter
              cases isAfter
      rintro ⟨exchange, inside, isAfter⟩
      cases List.mem_cons.mp inside with
      | inl first =>
        rw [first] at isAfter
        obtain ⟨sii, isAfter⟩ := isAfter
        cases isAfter
      | inr later => exact below ⟨exchange, later, isAfter⟩

/-- The first call of a map is on the entity; if it fails there is no other. -/
theorem maps_first (maps : Maps build depth calls se trace result) :
    ∃ reply rest, trace = ⟨.before se, reply⟩ :: rest ∧ (reply.err ≠ none → rest = []) := by
  cases depth with
  | zero => exact maps.elim
  | succ depth =>
    cases maps with
    | filtered => exact ⟨_, [], rfl, fun _ => rfl⟩
    | skipped kept err skips => exact ⟨_, [], rfl, fun _ => rfl⟩
    | image si => exact ⟨_, [], rfl, fun _ => rfl⟩
    | unchanged contents each intact => exact ⟨_, _, rfl, fun isErr => absurd rfl isErr⟩
    | rebuilt contents each changes built lists reply =>
      exact ⟨_, _, rfl, fun isErr => absurd rfl isErr⟩

/-- A run of a walk that follows the reference for maps is a walk exactly when nothing below the
root is skipped. -/
theorem walks_iff (maps : Maps build depth calls se trace result)
    (walk : ∀ exchange ∈ trace, WalkCall exchange) :
    Walks depth se trace ↔ ∀ exchange ∈ trace.tail, exchange.reply.err = none := by
  constructor
  · intro walks exchange inside
    by_contra isErr
    have fails : HasError trace := ⟨exchange, List.mem_of_mem_tail inside, isErr⟩
    cases hasAfter_of_maps maps walk fails with
    | inl skipped =>
      rw [skipped.2] at inside
      cases inside
    | inr found => exact not_hasAfter_of_walks walks found
  · intro quiet
    obtain ⟨reply, rest, traceIs, alone⟩ := maps_first maps
    by_cases continues : reply.err = none
    · have kept : AllKept trace := by
        intro exchange inside
        have silent : exchange.reply.err = none := by
          rw [traceIs] at inside quiet
          cases List.mem_cons.mp inside with
          | inl first =>
            rw [first]
            exact continues
          | inr later => exact quiet exchange later
        cases walk exchange inside with
        | inl kept => exact kept
        | inr skipped =>
          obtain ⟨err, sii, replyIs, -⟩ := skipped
          rw [replyIs] at silent
          cases silent
      exact (walks_of_maps maps kept).2
    · have first : WalkCall ⟨.before se, reply⟩ := by
        apply walk
        rw [traceIs]
        exact List.mem_cons_self
      rw [traceIs, alone continues]
      cases first with
      | inl kept => exact absurd (congrArg Reply.err kept) continues
      | inr skipped =>
        obtain ⟨err, sii, replyIs, -, seIs⟩ := skipped
        have isIndex : se = .index sii := seIs
        rw [isIndex]
        cases depth with
        | zero => exact maps.elim
        | succ depth => exact .skipped sii reply err (congrArg Reply.err replyIs)

/-- **When a walk visits what it should.** For every tree with known media types, with room for its
depth, and every function that returns nil, or `ErrSkipChildren` on some indexes, a walk ends. It
returns nil and has called the function exactly once on each entity that has no skipped index above
it, and on nothing else, exactly when no index below the root is skipped. -/
theorem walk_prunes_iff (checksum : IndexHeader → List ManifestDescriptor → Hash × Int)
    (fn : Visit → σ → Option MapError × σ) (skips : SkipsIndexes fn) {root : Entity}
    (sound : Sound root) {stack : Nat} (fits : Fits stack root) (history : History σ Visit Reply) :
    ∃ err after trace, walkSignedEntity checksum fn stack root history = .ok (err, after) ∧
      Records (walkFn fn) history trace after ∧
      (err = none ∧ Walks stack root trace ↔
        ∀ exchange ∈ trace.tail, exchange.reply.err = none) := by
  have run : MapRun (walkFn fn) (Maps (rebuild checksum) stack history.calls.length root)
      (Shallow (walkFn fn) ∧ Fits stack root) root history
      (mapEntity checksum (walkFn fn) stack root history) :=
    mapEntity_runs checksum (obeys_walkFn skips) stack sound history
  unfold walkSignedEntity
  generalize mapEntity checksum (walkFn fn) stack root history = outcome at run
  cases run with
  | overflows full => exact absurd ⟨.of_same (walkFn_same fn), fits⟩ full
  | follows records maps unskipped kept =>
    refine ⟨none, _, _, rfl, records, ?_⟩
    rw [and_iff_right rfl]
    exact walks_iff maps (records.all (walkFn_call skips))
  | @escapes rest first entity err after records escaped isSkip =>
    refine ⟨some err, after, _, rfl, records, iff_of_false nofun ?_⟩
    exact fun quiet => escaped fun exchange inside _ => quiet exchange inside

/-- An index with an index below it. -/
def nestedIndex : SignedIndex := indexOf 1 [listsIndex 2 [listsImage 3]]

/-- A function that skips one index. -/
def skipSecond (visit : Visit) (state : Unit) : Option MapError × Unit :=
  (if visit.entity.kind = .index ∧ visit.entity.handle.address = .given 2 then some errSkipChildren
    else none, state)

/-- A function that skips every index but one. -/
def skipOthers (visit : Visit) (state : Unit) : Option MapError × Unit :=
  (if visit.entity.kind = .index ∧ visit.entity.handle.address ≠ .given 1 then some errSkipChildren
    else none, state)

/-- A walk over an index with a skipped index below it: the function is then called on an index that
was built during the walk, and if it skips this one, too, the walk returns `ErrSkipChildren`. -/
theorem walk_visits_new_index :
    (∃ after, walkSignedEntity sampleSum skipSecond 2 (.index nestedIndex) ⟨(), []⟩ =
        .ok (none, after) ∧
      after.calls.map (·.asked.entity.handle.address) = [.given 1, .given 2, .built 2]) ∧
    ∃ after, walkSignedEntity sampleSum skipOthers 2 (.index nestedIndex) ⟨(), []⟩ =
        .ok (some errSkipChildren, after) ∧
      after.calls.map (·.asked.entity.handle.address) = [.given 1, .given 2, .built 2] :=
  ⟨⟨_, rfl, rfl⟩, _, rfl, rfl⟩

/-- The walk over an index of one image that skips nothing. -/
theorem walk_prunes_iff_image : ∃ err after trace,
    walkSignedEntity sampleSum skipOthers 1 (.index (imageIndex 1)) ⟨(), []⟩ = .ok (err, after) ∧
      Records (walkFn skipOthers) ⟨(), []⟩ trace after ∧
      (err = none ∧ Walks 1 (.index (imageIndex 1)) trace ↔
        ∀ exchange ∈ trace.tail, exchange.reply.err = none) := by
  have skips : SkipsIndexes skipOthers := by
    intro visit state err returned
    unfold skipOthers at returned
    split at returned
    · rename_i found
      cases se : visit.entity with
      | image si =>
        rw [se] at found
        cases found.1
      | index sii =>
        have errIs : errSkipChildren = err := Option.some.inj returned
        rw [← errIs]
        exact ⟨rfl, sii, rfl⟩
    · cases returned
  have fits : Fits 1 (.index (imageIndex 1)) := by
    intro im manifests contents manifest inside x listed
    cases contents
    rw [List.mem_singleton.mp inside, listedEntity_listsImage] at listed
    cases listed
  exact walk_prunes_iff sampleSum skipOthers skips (sound_imageIndex 1) fits ⟨(), []⟩

end Cosign.Verif
