import Cosign.Verif.Rebuild

/-!
# `Map` against its reference

A run of `Map` with a callback whose only error is `ErrSkipChildren` follows the reference, or
`ErrSkipChildren` escapes from it, or the stack is full (`mapEntity_runs`). Conversely, what the
reference says is what `Map` does (`mapEntity_of_maps`).
-/
namespace Cosign.Verif

open Cosign.Go Cosign.Oci Cosign.Spec

variable {σ : Type} {fn : Visit → σ → Reply × σ}
  {checksum : IndexHeader → List ManifestDescriptor → Hash × Int}
  {manifest : Manifest SignedIndex} {manifests : List (Manifest SignedIndex)}
  {progress : Progress} {history after : History σ Visit Reply} {trace : Trace}
  {nested : Nat → SignedIndex → Trace → Option Entity → Prop} {fits : SignedIndex → Prop}

/-! ## Callbacks and traces -/

/-- A callback whose only error is `ErrSkipChildren` and that returns trees which can be read, of
the kind it is given. -/
structure Obeys (fn : Visit → σ → Reply × σ) : Prop where
  /-- The only error. -/
  skips : ∀ visit state err, (fn visit state).1.err = some err → err.skips = true
  kind : ∀ visit state se, (fn visit state).1.entity = some se → se.kind = visit.entity.kind
  /-- What is returned for a tree that can be read can be read. -/
  sound : ∀ visit state se, Sound visit.entity → (fn visit state).1.entity = some se → Sound se

theorem Obeys.answer_skips (obeys : Obeys fn) {visit : Visit} {entity : Option Entity}
    {err : MapError} (asks : history.ask fn visit = (⟨entity, some err⟩, after)) :
    err.skips = true :=
  obeys.skips visit history.state err (congrArg Reply.err (ask_reply asks))

theorem Obeys.answer_sound (obeys : Obeys fn) {visit : Visit} {kept : Entity}
    {err : Option MapError} (asks : history.ask fn visit = (⟨some kept, err⟩, after))
    (sound : Sound visit.entity) : Sound kept ∧ kept.kind = visit.entity.kind := by
  have returned := congrArg Reply.entity (ask_reply asks)
  exact ⟨obeys.sound visit _ kept sound returned, obeys.kind visit _ kept returned⟩

/-- A callback that puts no deeper index in the place of an entity before its children are
mapped. -/
def Shallow (fn : Visit → σ → Reply × σ) : Prop :=
  ∀ depth se state kept, Fits depth se → (fn (.before se) state).1.entity = some kept →
    Fits depth kept

theorem Obeys.of_same
    (skips : ∀ visit state err, (fn visit state).1.err = some err → err.skips = true)
    (same : ∀ visit state se, (fn visit state).1.entity = some se → se = visit.entity) :
    Obeys fn where
  skips := skips
  kind visit state se returned := by
    rw [same visit state se returned]
  sound visit state se sound returned := by
    rw [same visit state se returned]
    exact sound

/-- A callback that returns only what it is given makes nothing deeper. -/
theorem Shallow.of_same
    (same : ∀ visit state se, (fn visit state).1.entity = some se → se = visit.entity) :
    Shallow fn := by
  intro depth se state kept fits returned
  rw [same (.before se) state kept returned]
  exact fits

/-- A call outside the before pass. -/
def isLate : Visit → Bool
  | .before _ => false
  | .child _ => true
  | .after _ => true

/-- No call outside the before pass is answered by an error. -/
def Unskipped (trace : Trace) : Prop :=
  ∀ exchange ∈ trace, isLate exchange.asked = true → exchange.reply.err = none

theorem unskipped_nil : Unskipped [] := List.forall_mem_nil _

theorem unskipped_append {first second : Trace} :
    Unskipped (first ++ second) ↔ Unskipped first ∧ Unskipped second :=
  List.forall_mem_append

theorem unskipped_before {se : Entity} {reply : Reply} :
    Unskipped (⟨.before se, reply⟩ :: trace) ↔ Unskipped trace := by
  unfold Unskipped
  rw [List.forall_mem_cons]
  exact and_iff_right nofun

theorem unskipped_late {visit : Visit} {reply : Reply} (late : isLate visit = true) :
    Unskipped [⟨visit, reply⟩] ↔ reply.err = none := by
  unfold Unskipped
  rw [List.forall_mem_singleton]
  exact ⟨fun all => all late, fun unfailing _ => unfailing⟩

/-! ## Listed manifests -/

theorem listedEntity_index {x : SignedIndex} : listedEntity manifest = some (.index x) ↔
    manifestKind manifest.desc.mediaType = some .index ∧ manifest.signedImageIndex = .ok x := by
  unfold listedEntity
  cases manifestKind manifest.desc.mediaType with
  | none => simp
  | some kind =>
    cases kind with
    | image => cases manifest.signedImage <;> simp [Except.toOption]
    | index => cases manifest.signedImageIndex <;> simp [Except.toOption]

theorem listedEntity_image {x : Handle} : listedEntity manifest = some (.image x) ↔
    manifestKind manifest.desc.mediaType = some .image ∧ manifest.signedImage = .ok x := by
  unfold listedEntity
  cases manifestKind manifest.desc.mediaType with
  | none => simp
  | some kind =>
    cases kind with
    | image => cases manifest.signedImage <;> simp [Except.toOption]
    | index => cases manifest.signedImageIndex <;> simp [Except.toOption]

theorem manifestKind_listed {x : Entity} (listed : listedEntity manifest = some x) :
    manifestKind manifest.desc.mediaType = some x.kind := by
  cases x with
  | image si => exact (listedEntity_image.mp listed).1
  | index sii => exact (listedEntity_index.mp listed).1

/-! ## Runs -/

/-- What a run of `Map` on an entity can be; `fits` says that the stack has room for it. -/
inductive MapRun (fn : Visit → σ → Reply × σ) (maps : Trace → Option Entity → Prop) (fits : Prop)
    (se : Entity) (history : History σ Visit Reply) :
    Call (Reply × History σ Visit Reply) → Prop where
  | overflows (full : ¬fits) : MapRun fn maps fits se history (.error stackOverflow)
  /-- The run follows the reference. -/
  | follows {trace : Trace} {result : Option Entity} {after : History σ Visit Reply}
    (records : Records fn history trace after) (mapped : maps trace result)
    (unskipped : Unskipped trace)
    (sound : ∀ kept, result = some kept → Sound kept ∧ kept.kind = se.kind) :
    MapRun fn maps fits se history (.ok (⟨result, none⟩, after))
  /-- An error that a late call returned is returned. -/
  | escapes {rest : Trace} {first : Reply} {entity : Option Entity} {err : MapError}
    {after : History σ Visit Reply}
    (records : Records fn history (⟨.before se, first⟩ :: rest) after)
    (escaped : ¬Unskipped rest) (skips : err.skips = true) :
    MapRun fn maps fits se history (.ok (⟨entity, some err⟩, after))

/-- What a run of the loop over manifests can be; `fits` says of an index that the stack has room
for it. -/
inductive LoopRun (fn : Visit → σ → Reply × σ)
    (nested : Nat → SignedIndex → Trace → Option Entity → Prop) (fits : SignedIndex → Prop)
    (manifests : List (Manifest SignedIndex)) (progress : Progress)
    (history : History σ Visit Reply) :
    Call (Except MapError Progress × History σ Visit Reply) → Prop where
  /-- The stack is full. -/
  | overflows (full : ¬∀ manifest ∈ manifests, ∀ x, listedEntity manifest = some (.index x) →
      fits x) : LoopRun fn nested fits manifests progress history (.error stackOverflow)
  /-- The run follows the reference and collects the children that are not filtered. -/
  | follows {trace : Trace} {results : List (Option Entity)} {final : Progress}
    {after : History σ Visit Reply} (records : Records fn history trace after)
    (maps : MapsChildren nested history.calls.length manifests trace results)
    (unskipped : Unskipped trace) (addable : ∀ new ∈ survivors manifests results, Addable new)
    (adds : final.adds = progress.adds ++ (survivors manifests results).map addendumOf)
    (changed : final.changed = true ↔ progress.changed = true ∨ ¬Intact manifests results) :
    LoopRun fn nested fits manifests progress history (.ok (.ok final, after))
  /-- An error that a late call returned is returned. -/
  | escapes {trace : Trace} {err : MapError} {after : History σ Visit Reply}
    (records : Records fn history trace after) (escaped : ¬Unskipped trace)
    (skips : err.skips = true) :
    LoopRun fn nested fits manifests progress history (.ok (.error err, after))

/-- The end of a round for a child that was mapped without an error: it is added unless it was
filtered, and the loop remembers whether it has changed. -/
theorem keepChild_eq_ok {x : Entity} {result : Option Entity}
    (listed : listedEntity manifest = some x)
    (kind : ∀ kept, result = some kept → kept.kind = x.kind) :
    ∃ final, keepChild x.kind manifest.desc x.handle ⟨result, none⟩ progress = .ok (.ok final) ∧
      final.adds = progress.adds ++ (survivors [manifest] [result]).map addendumOf ∧
      (final.changed = true ↔ progress.changed = true ∨ ¬Intact [manifest] [result]) := by
  cases result with
  | none =>
    have gone : ¬Intact [manifest] [none] := by
      intro intact
      cases intact with
      | cons stays rest =>
        obtain ⟨se, x', seIs, -⟩ := stays
        cases seIs
    exact ⟨_, rfl, (List.append_nil _).symm, iff_of_true rfl (.inr gone)⟩
  | some kept =>
    have stays : Intact [manifest] [some kept] ↔ x.handle.address = kept.handle.address := by
      unfold Intact Stays
      simp [listed]
    refine ⟨_, if_pos (kind kept rfl), rfl, ?_⟩
    rw [stays]
    simp

/-- A child that was mapped without an error, in a run of the loop. -/
theorem keepChild_runs {x : Entity} {result : Option Entity}
    (listed : listedEntity manifest = some x) (records : Records fn history trace after)
    (maps : MapsChild nested history.calls.length manifest trace result)
    (unskipped : Unskipped trace)
    (sound : ∀ kept, result = some kept → Sound kept ∧ kept.kind = x.kind) :
    LoopRun fn nested fits [manifest] progress history
      (keepChild x.kind manifest.desc x.handle ⟨result, none⟩ progress >>=
        fun kept => .ok (kept, after)) := by
  have single : MapsChildren nested history.calls.length [manifest] trace [result] := by
    have pair := MapsChildren.cons maps (.nil _)
    rw [List.append_nil] at pair
    exact pair
  obtain ⟨final, ran, adds, changed⟩ :=
    keepChild_eq_ok listed fun kept keptIs => (sound kept keptIs).2
  rw [ran]
  refine .follows records single unskipped ?_ adds changed
  cases result with
  | none => exact List.forall_mem_nil _
  | some kept =>
    have facts := sound kept rfl
    have typed := manifestKind_listed listed
    rw [← facts.2] at typed
    intro new inside
    rw [List.mem_singleton.mp inside]
    exact ⟨facts.1, typed⟩

/-- **One round of the loop**, if what is said of the recursive call holds. -/
theorem mapManifest_runs
    {visit : SignedIndex → History σ Visit Reply → Call (Reply × History σ Visit Reply)}
    (obeys : Obeys fn)
    (visits : ∀ x history, Sound (.index x) →
      MapRun fn (nested history.calls.length x) (fits x) (.index x) history (visit x history))
    (known : ∃ se, listedEntity manifest = some se)
    (below : ∀ se, listedEntity manifest = some se → Sound se) :
    LoopRun fn nested fits [manifest] progress history
      (mapManifest fn visit manifest progress history) := by
  obtain ⟨se, listed⟩ := known
  have sound := below se listed
  unfold mapManifest
  cases se with
  | index x =>
    have read := listedEntity_index.mp listed
    rw [read.1, read.2]
    have run := visits x history sound
    dsimp only
    generalize visit x history = outcome at run
    cases run with
    | overflows full =>
      exact .overflows fun all => full (all manifest (List.mem_singleton_self manifest) x listed)
    | follows records maps unskipped kept =>
      exact keepChild_runs listed records (.index listed maps) unskipped kept
    | escapes records escaped skips =>
      refine .escapes records ?_ skips
      rw [unskipped_before]
      exact escaped
  | image x =>
    have read := listedEntity_image.mp listed
    rw [read.1, read.2]
    cases asks : history.ask fn (.child x) with
    | mk reply after =>
      obtain ⟨entity, err⟩ := reply
      have records := records_of_ask asks
      have late : isLate (.child x) = true := rfl
      dsimp only
      rw [asks]
      cases err with
      | some err =>
        refine .escapes records ?_ (obeys.answer_skips asks)
        rw [unskipped_late late]
        nofun
      | none =>
        refine keepChild_runs listed records (.image listed _) ((unskipped_late late).mpr rfl) ?_
        intro kept keptIs
        rw [keptIs] at asks
        exact obeys.answer_sound asks sound

theorem survivors_cons (manifest : Manifest SignedIndex) (manifests : List (Manifest SignedIndex))
    (result : Option Entity) (results : List (Option Entity)) :
    survivors (manifest :: manifests) (result :: results) =
      survivors [manifest] [result] ++ survivors manifests results := by
  cases result <;> rfl

theorem intact_cons (manifest : Manifest SignedIndex) (manifests : List (Manifest SignedIndex))
    (result : Option Entity) (results : List (Option Entity)) :
    Intact (manifest :: manifests) (result :: results) ↔
      Intact [manifest] [result] ∧ Intact manifests results := by
  unfold Intact
  simp

/-- A round that follows the reference goes on with the run over the rest. -/
theorem LoopRun.cons {rest : List (Manifest SignedIndex)} {result : Option Entity}
    {middle : Progress} {between : History σ Visit Reply}
    {outcome : Call (Except MapError Progress × History σ Visit Reply)}
    (records : Records fn history trace between)
    (maps : MapsChild nested history.calls.length manifest trace result)
    (unskipped : Unskipped trace) (addable : ∀ new ∈ survivors [manifest] [result], Addable new)
    (adds : middle.adds = progress.adds ++ (survivors [manifest] [result]).map addendumOf)
    (changed : middle.changed = true ↔ progress.changed = true ∨ ¬Intact [manifest] [result])
    (later : LoopRun fn nested fits rest middle between outcome) :
    LoopRun fn nested fits (manifest :: rest) progress history outcome := by
  cases later with
  | overflows full =>
    exact .overflows fun all => full fun other inside => all other (List.mem_cons_of_mem _ inside)
  | escapes laterRecords escaped skips =>
    refine .escapes (records.append laterRecords) ?_ skips
    exact fun both => escaped (unskipped_append.mp both).2
  | follows laterRecords laterMaps laterUnskipped laterAddable laterAdds laterChanged =>
    rw [records.length] at laterMaps
    refine .follows (records.append laterRecords) (.cons maps laterMaps)
      (unskipped_append.mpr ⟨unskipped, laterUnskipped⟩) ?_ ?_ ?_
    · rw [survivors_cons manifest rest result]
      exact List.forall_mem_append.mpr ⟨addable, laterAddable⟩
    · rw [laterAdds, adds, survivors_cons manifest rest result, List.map_append, List.append_assoc]
    · rw [laterChanged, changed, intact_cons manifest rest result, not_and_or, or_assoc]

/-- **The loop over the manifests.** -/
theorem mapManifests_runs
    {visit : SignedIndex → History σ Visit Reply → Call (Reply × History σ Visit Reply)}
    (obeys : Obeys fn)
    (visits : ∀ x history, Sound (.index x) →
      MapRun fn (nested history.calls.length x) (fits x) (.index x) history (visit x history))
    (known : ∀ manifest ∈ manifests, ∃ se, listedEntity manifest = some se)
    (below : ∀ manifest ∈ manifests, ∀ se, listedEntity manifest = some se → Sound se) :
    LoopRun fn nested fits manifests progress history
      (mapManifests fn visit manifests progress history) := by
  induction manifests generalizing progress history with
  | nil =>
    have intact : Intact [] [] := .nil
    refine .follows (.nil history) (.nil _) unskipped_nil (List.forall_mem_nil _)
      (List.append_nil _).symm ?_
    rw [or_iff_left (not_not_intro intact)]
  | cons manifest rest ih =>
    have first : LoopRun fn nested fits [manifest] progress history _ :=
      mapManifest_runs obeys visits (known manifest List.mem_cons_self)
        (below manifest List.mem_cons_self)
    unfold mapManifests
    generalize mapManifest fn visit manifest progress history = outcome at first
    cases first with
    | overflows full =>
      refine .overflows fun all => full fun other inside => ?_
      rw [List.mem_singleton.mp inside]
      exact all manifest List.mem_cons_self
    | escapes records escaped skips => exact .escapes records escaped skips
    | @follows trace results middle between records maps unskipped addable adds changed =>
      cases maps with
      | @cons _ _ _ trace nothing result results childMaps restMaps =>
        cases restMaps
        rw [List.append_nil] at records unskipped
        have later : LoopRun fn nested fits rest middle between
            (mapManifests fn visit rest middle between) :=
          ih (fun other inside => known other (List.mem_cons_of_mem _ inside))
            (fun other inside => below other (List.mem_cons_of_mem _ inside))
        exact .cons records childMaps unskipped addable adds changed later

section End

variable {se : Entity} {sii : SignedIndex} {im : IndexHeader} {results : List (Option Entity)}
  {final : Progress} {next : History σ Visit Reply} {room : Prop}

/-- The end of `Map` on an index with a child that changed: the index is built again and the
callback is asked about it. -/
theorem mapRebuilt_runs (obeys : Obeys fn) (kind : EntityKind.index = se.kind)
    (contents : sii.indexManifest = .ok (im, manifests))
    (first : Records fn history [⟨.before se, ⟨some (.index sii), none⟩⟩] next)
    (records : Records fn next trace after)
    (maps : MapsChildren nested (history.calls.length + 1) manifests trace results)
    (unskipped : Unskipped trace) (addable : ∀ new ∈ survivors manifests results, Addable new)
    (adds : final.adds = (survivors manifests results).map addendumOf)
    (altered : ¬Intact manifests results) :
    MapRun fn (MapsEntity (rebuild checksum) nested history.calls.length se) room se history
      (.ok (after.ask fn
        (.after (appendManifests checksum after.calls.length im final.adds)))) := by
  have built := rebuild_rebuilt checksum after.calls.length im addable
  have readable := built.2
  have same : appendManifests checksum after.calls.length im final.adds =
      rebuild checksum after.calls.length im (survivors manifests results) := by
    rw [adds, rebuild]
  rw [same]
  cases asks : after.ask fn
      (.after (rebuild checksum after.calls.length im (survivors manifests results))) with
  | mk reply done =>
    have last := records_of_ask asks
    have length : after.calls.length = history.calls.length + 1 + trace.length := by
      rw [records.length, first.length]
      rfl
    rw [length] at built last
    have whole : Records fn history
        (⟨.before se, ⟨some (.index sii), none⟩⟩ :: (trace ++ _)) done :=
      first.append (records.append last)
    obtain ⟨entity, err⟩ := reply
    cases err with
    | some err =>
      refine .escapes whole ?_ ?_
      · rw [unskipped_append, unskipped_late rfl]
        exact fun both => Option.some_ne_none err both.2
      · exact obeys.answer_skips asks
    | none =>
      refine .follows whole ?_ ?_ ?_
      · exact .rebuilt contents maps altered rfl built.1 ⟨entity, none⟩
      · exact unskipped_before.mpr
          (unskipped_append.mpr ⟨unskipped, (unskipped_late rfl).mpr rfl⟩)
      · intro kept keptIs
        rw [show entity = some kept from keptIs] at asks
        have facts := obeys.answer_sound asks readable
        exact ⟨facts.1, facts.2.trans kind⟩

theorem mapEnd_runs (obeys : Obeys fn) (sound : Sound (.index sii))
    (kind : EntityKind.index = se.kind) (contents : sii.indexManifest = .ok (im, manifests))
    (first : Records fn history [⟨.before se, ⟨some (.index sii), none⟩⟩] next)
    (records : Records fn next trace after)
    (maps : MapsChildren nested next.calls.length manifests trace results)
    (unskipped : Unskipped trace) (addable : ∀ new ∈ survivors manifests results, Addable new)
    (adds : final.adds = (survivors manifests results).map addendumOf)
    (changed : final.changed = true ↔ ¬Intact manifests results) :
    MapRun fn (MapsEntity (rebuild checksum) nested history.calls.length se) room se history
      (if final.changed then
        .ok (after.ask fn (.after (appendManifests checksum after.calls.length im final.adds)))
      else .ok (⟨some (.index sii), none⟩, after)) := by
  have counted : next.calls.length = history.calls.length + 1 := first.length
  rw [counted] at maps
  by_cases changes : final.changed = true
  · rw [if_pos changes]
    exact mapRebuilt_runs obeys kind contents first records maps unskipped addable adds
      (changed.mp changes)
  · rw [if_neg changes]
    have intact : Intact manifests results :=
      not_not.mp fun altered => changes (changed.mpr altered)
    refine .follows (first.append records) (.unchanged contents maps intact)
      (unskipped_before.mpr unskipped) ?_
    intro kept keptIs
    rw [← Option.some.inj keptIs]
    exact ⟨sound, kind⟩

end End

/-- **Runs of `Map`**: for a callback whose only error is `ErrSkipChildren`, a run follows the
reference, or an error of a late call escapes from it, or the stack is full. -/
theorem mapEntity_runs (checksum : IndexHeader → List ManifestDescriptor → Hash × Int)
    (obeys : Obeys fn) (stack : Nat) {se : Entity} (sound : Sound se)
    (history : History σ Visit Reply) :
    MapRun fn (Maps (rebuild checksum) stack history.calls.length se)
      (Shallow fn ∧ Fits stack se) se history (mapEntity checksum fn stack se history) := by
  induction stack generalizing se history with
  | zero => exact .overflows fun room => room.2
  | succ stack ih =>
    cases asks : history.ask fn (.before se) with
    | mk reply next =>
      obtain ⟨entity, err⟩ := reply
      have records := records_of_ask asks
      have quiet : ∀ reply, Unskipped [⟨.before se, reply⟩] :=
        fun reply => unskipped_before.mpr unskipped_nil
      have keeps : ∀ kept, entity = some kept → Sound kept ∧ kept.kind = se.kind := by
        intro kept keptIs
        rw [keptIs] at asks
        exact obeys.answer_sound asks sound
      unfold mapEntity
      dsimp only
      rw [asks]
      cases err with
      | some err =>
        have skips := obeys.answer_skips asks
        dsimp only
        rw [if_pos skips]
        exact .follows records (.skipped entity err skips) (quiet _) keeps
      | none =>
        cases entity with
        | none => exact .follows records .filtered (quiet _) keeps
        | some kept =>
          cases kept with
          | image si => exact .follows records (.image si) (quiet _) keeps
          | index sii =>
            have facts := keeps (.index sii) rfl
            cases facts.1 with
            | @index handle im manifests legible known below =>
              have loop : LoopRun fn
                  (fun calls x => Maps (rebuild checksum) stack calls (.index x))
                  (fun x => Shallow fn ∧ Fits stack (.index x)) manifests ⟨false, []⟩ next
                  (mapManifests fn (fun x => mapEntity checksum fn stack (.index x)) manifests
                    ⟨false, []⟩ next) :=
                mapManifests_runs obeys (fun x history sound => ih sound history) known below
              dsimp only [SignedIndex.indexManifest]
              generalize mapManifests fn (fun x => mapEntity checksum fn stack (.index x))
                manifests ⟨false, []⟩ next = outcome at loop
              cases loop with
              | overflows full =>
                refine .overflows fun room => full fun manifest inside x listed => ?_
                have fitting : Fits (stack + 1) (.index (.mk handle (.ok (im, manifests)))) :=
                  room.1 (stack + 1) se history.state _ room.2
                    (congrArg Reply.entity (ask_reply asks))
                exact ⟨room.1, fitting im manifests rfl manifest inside x listed⟩
              | escapes laterRecords escaped skips =>
                exact .escapes (records.append laterRecords) escaped skips
              | follows laterRecords maps unskipped addable adds changed =>
                exact mapEnd_runs obeys facts.1 facts.2 rfl records laterRecords maps unskipped
                  addable adds (changed.trans (or_iff_right Bool.false_ne_true))

end Cosign.Verif
