import Cosign.Cli.Copy
import Cosign.Go.Footprint

/-!
# One call of `copyImage`

What one call of `copyImage` can do is said once (`CopyRun`): it writes the digests it uploads and
its own destination (`CopyRun.changes`); when it returns, it has copied what is at the source
(`CopyRun.copied`); and what it writes over without force was absent or missed by a failed HEAD
request (`CopyRun.guarded`, `copyImage_overwrites_iff`).
-/
namespace Cosign.Verif

open Cosign.Go Cosign.Oci Cosign.Cli
open Cosign.Remote hiding remoteGet remoteWrite
open Cosign.Verify (Repository)
open Cosign.Go.Proc

variable {before after : World} {repository : Repository} {digest : Digest} {tree : EntityTree}
  {got : EntityTree}

/-- What a run does to the destination is within a bound, and what was missed stays noted. -/
structure Changes (allowed : Tag → Digest → Prop) (before after : World) : Prop where
  /-- The manifests are within the bound. -/
  footprint : Footprint allowed before.manifests.get after.manifests.get
  /-- The notes are kept. -/
  missed : before.missed <:+ after.missed

/-- Doing nothing is within every bound. -/
instance (allowed : Tag → Digest → Prop) : Std.Refl (Changes allowed) :=
  ⟨fun _ => ⟨.refl, List.suffix_rfl⟩⟩

/-- Bounds compose. -/
instance (allowed : Tag → Digest → Prop) : IsTrans World (Changes allowed) :=
  ⟨fun _ _ _ first second =>
    ⟨first.footprint.trans second.footprint, first.missed.trans second.missed⟩⟩

theorem Changes.mono {allowed more : Tag → Digest → Prop} (bound : Changes allowed before after)
    (weaker : ∀ address digest, allowed address digest → more address digest) :
    Changes more before after :=
  ⟨bound.footprint.mono weaker, bound.missed⟩

theorem upload_keeps {held : Manifests} {address : Tag} (holds : held.get address = some digest)
    (digests : List Digest) :
    (held.upload repository digests).get address = some digest := by
  unfold Manifests.upload
  induction digests generalizing held with
  | nil => exact holds
  | cons first rest ih =>
    apply ih
    by_cases same : address = ⟨repository, first.hash.string⟩
    · rw [same] at holds ⊢
      rw [held.addressed repository first digest holds]
      exact Function.update_self ..
    · exact (Function.update_of_ne same ..).trans holds

theorem upload_footprint {held : Manifests} {allowed : Tag → Digest → Prop}
    (own : ∀ digest : Digest, allowed ⟨repository, digest.hash.string⟩ digest)
    (digests : List Digest) : Footprint allowed held.get (held.upload repository digests).get := by
  unfold Manifests.upload
  induction digests generalizing held with
  | nil => exact .refl
  | cons first rest ih => exact .trans (.update (own first)) ih

section

variable (s : Session)

theorem nextCall_bind {α : Type} (next : Responses → Proc World α) (world : World) :
    (nextCall s >>= next) world =
      next (s.responses world.calls) { world with calls := world.calls + 1 } :=
  rfl

theorem resolve_bind {α : Type} (dest : Reference) (next : Option Digest → Proc World α)
    (world : World) : (resolve dest >>= next) world =
      next (world.manifests.get dest.address) world :=
  rfl

/-- The world after one more call. -/
def World.called (world : World) : World := { world with calls := world.calls + 1 }

/-- What a call of `remoteGet` answers. -/
def getAnswer (src : Reference) (call : Nat) : Except CallError EntityTree :=
  match (s.responses call).get, s.source.get src.address with
  | some err, _ => .error err
  | none, none => .error (.transport statusNotFound ⟨"MANIFEST_UNKNOWN: manifest unknown"⟩)
  | none, some tree => .ok tree

theorem remoteGet_run (src : Reference) (world : World) :
    remoteGet s src world = (.ok (getAnswer s src world.calls), World.called world) := by
  unfold remoteGet getAnswer
  rw [nextCall_bind]
  cases (s.responses world.calls).get with
  | some err => rfl
  | none => cases s.source.get src.address <;> rfl

theorem getAnswer_ok {src : Reference} {call : Nat}
    (answered : getAnswer s src call = .ok tree) : s.source.get src.address = some tree := by
  unfold getAnswer at answered
  split at answered
  · cases answered
  · cases answered
  · next found =>
    cases answered
    exact found

/-- The answer 404 is given for what is not there, or as a failure. -/
theorem getAnswer_notFound {src : Reference} {call : Nat} {err : GoError}
    (answered : getAnswer s src call = .error (.transport statusNotFound err)) :
    s.source.get src.address = none ∨
      ∃ err, (s.responses call).get = some (.transport statusNotFound err) := by
  unfold getAnswer at answered
  split at answered
  · next failed =>
    cases answered
    exact .inr ⟨err, failed⟩
  · next absent => exact .inl absent
  · cases answered

theorem readManifest_run (world : World) :
    readManifest s world =
      ((match (s.responses world.calls).read with
        | some err => .error err
        | none => .ok ()), World.called world) := by
  unfold readManifest
  rw [nextCall_bind]
  cases (s.responses world.calls).read <;> rfl

/-- A HEAD request changes no manifest. A destination that it does not report is absent or
missed, and what it reports is there. -/
theorem remoteHead_run (dest : Reference) (world : World) :
    ∃ answer after, remoteHead s dest world = (.ok answer, after) ∧
      after.manifests = world.manifests ∧ world.missed <:+ after.missed ∧
      (∀ err, answer = .error err →
        world.manifests.get dest.address = none ∨ dest.address ∈ after.missed) ∧
      (∀ digest, answer = .ok digest → world.manifests.get dest.address = some digest) := by
  unfold remoteHead
  rw [nextCall_bind, resolve_bind]
  cases (s.responses world.calls).head with
  | some err =>
    cases held : world.manifests.get dest.address with
    | some digest =>
      refine ⟨.error err, _, rfl, rfl, List.suffix_cons .., fun _ _ => .inr ?_, fun _ same => ?_⟩
      · exact List.mem_cons_self
      · cases same
    | none =>
      refine ⟨.error err, _, rfl, rfl, List.suffix_rfl, fun _ _ => .inl rfl, fun _ same => ?_⟩
      cases same
  | none =>
    cases held : world.manifests.get dest.address with
    | some digest =>
      refine ⟨.ok digest, _, rfl, rfl, List.suffix_rfl, fun _ same => ?_, fun other same => ?_⟩
      · cases same
      · rw [Except.ok.inj same]
    | none =>
      refine ⟨.error _, _, rfl, rfl, List.suffix_rfl, fun _ _ => .inl rfl, fun _ same => ?_⟩
      cases same

section Writes

variable {allowed : Tag → Digest → Prop} {dest : Reference}

theorem nextCall_within : Within (Changes allowed) (nextCall s) :=
  fun _ => ⟨.refl, List.suffix_rfl⟩

theorem readManifest_within : Within (Changes allowed) (readManifest s) := by
  intro world
  rw [readManifest_run]
  exact ⟨.refl, List.suffix_rfl⟩

theorem upload_within (own : ∀ digest : Digest, allowed ⟨repository, digest.hash.string⟩ digest)
    (digests : List Digest) : Within (Changes allowed) (upload repository digests) :=
  fun _ => ⟨upload_footprint own digests, List.suffix_rfl⟩

theorem move_within (moved : allowed dest.address digest) :
    Within (Changes allowed) (move dest digest) := by
  intro world
  unfold move
  split
  · exact ⟨.update moved, List.suffix_rfl⟩
  · exact ⟨.refl, List.suffix_rfl⟩

/-- Whether a write fails or not, it writes digests under their own text and its destination. -/
theorem remoteWrite_within
    (own : ∀ digest : Digest, allowed ⟨dest.context, digest.hash.string⟩ digest)
    (moved : allowed dest.address tree.digest) :
    Within (Changes allowed) (remoteWrite s dest tree) := by
  refine within_bind (nextCall_within s) fun response => ?_
  cases response.write with
  | none => exact within_bind (upload_within own _) fun _ => move_within moved
  | some failure =>
    refine within_bind (upload_within own _) fun _ => ?_
    cases failure.applied with
    | true => exact within_bind (move_within moved) fun _ => within_fail _
    | false => exact within_fail _

theorem writeImage_within
    (own : ∀ digest : Digest, allowed ⟨dest.context, digest.hash.string⟩ digest)
    (moved : allowed dest.address got.digest) :
    Within (Changes allowed) (writeImage s dest got) :=
  within_bind (readManifest_within s) fun _ => remoteWrite_within s own moved

theorem remoteWrite_ensures :
    Ensures (fun _ => True) (remoteWrite s dest tree) fun _ world =>
      world.manifests.get dest.address = some tree.digest := by
  intro world _ value final ran
  unfold remoteWrite at ran
  rw [nextCall_bind] at ran
  cases failed : (s.responses world.calls).write with
  | some failure =>
    simp only [failed] at ran
    obtain ⟨_, _, _, ran⟩ := bind_eq_ok.mp ran
    cases applied : failure.applied <;> simp only [applied] at ran
    · cases ran
    · obtain ⟨_, _, _, ran⟩ := bind_eq_ok.mp ran
      cases ran
  | none =>
    simp only [failed] at ran
    obtain ⟨_, uploaded, _, moved⟩ := bind_eq_ok.mp ran
    unfold move at moved
    split at moved
    · cases moved
      exact Function.update_self ..
    · cases moved

theorem writeImage_ensures :
    Ensures (fun _ => True) (writeImage s dest got) fun _ world =>
      world.manifests.get dest.address = some got.digest :=
  ensures_bind (fun _ _ _ _ _ => trivial) fun _ => remoteWrite_ensures s

end Writes

/-- What a call of `copyImage` can do: it finds nothing to copy, fails, finds the destination as it
should be, or writes it, without `overwrite` only where the destination was absent or missed. -/
inductive CopyRun (src dest : Reference) (overwrite : Bool) (world : World) :
    Except GoError Unit × World → Prop where
  /-- The source has nothing, or it was answered so. -/
  | absent (after : World) (same : after.manifests = world.manifests)
      (missed : world.missed <:+ after.missed)
      (gone : s.source.get src.address = none ∨
        ∃ err, (s.responses world.calls).get = some (.transport statusNotFound err)) :
      CopyRun src dest overwrite world (.ok (), after)
  /-- Nothing is written and the call fails. -/
  | failed (err : GoError) (after : World) (same : after.manifests = world.manifests)
      (missed : world.missed <:+ after.missed) :
      CopyRun src dest overwrite world (.error err, after)
  /-- The destination holds what is to be copied. -/
  | present (got : EntityTree) (found : s.source.get src.address = some got) (after : World)
      (same : after.manifests = world.manifests) (missed : world.missed <:+ after.missed)
      (held : world.manifests.get dest.address = some got.digest) :
      CopyRun src dest overwrite world (.ok (), after)
  /-- The destination is written. -/
  | written (got : EntityTree) (found : s.source.get src.address = some got) (middle : World)
      (same : middle.manifests = world.manifests) (missed : world.missed <:+ middle.missed)
      (unguarded : overwrite = false →
        world.manifests.get dest.address = none ∨ dest.address ∈ middle.missed) :
      CopyRun src dest overwrite world (writeImage s dest got middle)

theorem copyImage_run (src dest : Reference) (overwrite : Bool) (world : World) :
    CopyRun s src dest overwrite world (copyImage s src dest overwrite world) := by
  unfold copyImage
  rw [Proc.bind_of_ok (remoteGet_run s src world)]
  cases answered : getAnswer s src world.calls with
  | error callErr =>
    cases callErr with
    | other err => exact .failed err _ rfl List.suffix_rfl
    | transport statusCode err =>
      by_cases notFound : statusCode = statusNotFound
      · rw [notFound] at answered
        simp only [notFound, if_true]
        exact .absent _ rfl List.suffix_rfl (getAnswer_notFound s answered)
      · simp only [notFound, if_false]
        exact .failed err _ rfl List.suffix_rfl
  | ok got =>
    have found := getAnswer_ok s answered
    cases overwrite with
    | true => exact .written got found _ rfl List.suffix_rfl fun same => by cases same
    | false =>
      obtain ⟨answer, after, ran, same, missed, unseen, seen⟩ :=
        remoteHead_run s dest (World.called world)
      show CopyRun s src dest false world ((remoteHead s dest >>= _) (World.called world))
      rw [Proc.bind_of_ok ran]
      cases answer with
      | error err => exact .written got found after same missed fun _ => unseen err rfl
      | ok dstDesc =>
        by_cases equal : got.digest.hash = dstDesc.hash
        · simp only [equal, if_true]
          refine .present got found after same missed ?_
          rw [digest_string_injective (congrArg Hash.string equal)]
          exact seen dstDesc rfl
        · simp only [equal, if_false]
          exact .failed _ after same missed

/-- Where a call of `copyImage` may write: digests under their own text, and what is at the source
to the destination. -/
def CopyWrites (src dest : Reference) (address : Tag) (digest : Digest) : Prop :=
  address = ⟨dest.context, digest.hash.string⟩ ∨
    address = dest.address ∧ ∃ got, s.source.get src.address = some got ∧ got.digest = digest

theorem Changes.of_same {allowed : Tag → Digest → Prop} (same : after.manifests = before.manifests)
    (missed : before.missed <:+ after.missed) :
    Changes allowed before after :=
  ⟨same ▸ .refl, missed⟩

variable {s} {src dest : Reference} {overwrite : Bool} {world : World}
  {result : Except GoError Unit × World}

theorem CopyRun.changes (run : CopyRun s src dest overwrite world result) :
    Changes (CopyWrites s src dest) world result.2 := by
  cases run with
  | absent after same missed gone => exact .of_same same missed
  | failed err after same missed => exact .of_same same missed
  | present got found after same missed held => exact .of_same same missed
  | written got found middle same missed unguarded =>
    apply trans_of _ (Changes.of_same same missed)
    exact writeImage_within s (fun _ => .inl rfl) (.inr ⟨rfl, got, found, rfl⟩) middle

/-- What is at the source is at the destination after a call that returned, unless the source was
answered to be absent. -/
theorem CopyRun.copied (run : CopyRun s src dest overwrite world result)
    (unchanging : ∀ call err, (s.responses call).get ≠ some (.transport statusNotFound err))
    (returned : result.1 = .ok ()) (found : s.source.get src.address = some tree) :
    result.2.manifests.get dest.address = some tree.digest := by
  cases run with
  | failed err after same missed => cases returned
  | absent after same missed gone =>
    cases gone with
    | inl gone => rw [gone] at found; cases found
    | inr failed =>
      obtain ⟨err, failed⟩ := failed
      exact absurd failed (unchanging _ err)
  | present got found' after same missed held =>
    rw [found'] at found
    cases found
    rw [same, held]
  | written got found' middle same missed unguarded =>
    rw [found'] at found
    cases found
    exact writeImage_ensures s middle trivial () _ (Prod.ext returned rfl)

/-- What was there is there, or it was missed. -/
structure Guarded (before after : World) : Prop where
  /-- The notes are kept. -/
  missed : before.missed <:+ after.missed
  /-- What changed was missed. -/
  kept : ∀ address digest, before.manifests.get address = some digest →
    after.manifests.get address = some digest ∨ address ∈ after.missed

/-- Nothing is lost in place. -/
instance : Std.Refl Guarded :=
  ⟨fun _ => ⟨List.suffix_rfl, fun _ _ holds => .inl holds⟩⟩

/-- One run after another. -/
instance : IsTrans World Guarded where
  trans before middle after first second := by
    refine ⟨first.missed.trans second.missed, fun address digest holds => ?_⟩
    cases first.kept address digest holds with
    | inl still => exact second.kept address digest still
    | inr noted => exact .inr (second.missed.subset noted)

theorem Changes.guarded (led : Changes (fun _ _ => False) before after) :
    Guarded before after := by
  refine ⟨led.missed, fun address digest holds => .inl ?_⟩
  rw [led.footprint.unchanged fun _ => id, holds]

/-- A call without `overwrite` writes over nothing that it has not missed. -/
theorem CopyRun.guarded (run : CopyRun s src dest false world result) :
    Guarded world result.2 := by
  refine ⟨run.changes.missed, fun address digest holds => ?_⟩
  cases run with
  | absent after same missed gone => exact .inl (same ▸ holds)
  | failed err after same missed => exact .inl (same ▸ holds)
  | present got found after same missed held => exact .inl (same ▸ holds)
  | written got found middle same missed unguarded =>
    have wrote : Changes (CopyWrites s src dest) middle (writeImage s dest got middle).2 :=
      writeImage_within s (fun _ => .inl rfl) (.inr ⟨rfl, got, found, rfl⟩) middle
    rw [← same] at holds
    cases wrote.footprint address with
    | inl still => exact .inl (still.trans holds)
    | inr moved =>
      obtain ⟨value, place, now⟩ := moved
      cases place with
      | inl named =>
        rw [named] at holds now ⊢
        rw [middle.manifests.addressed _ _ _ holds]
        exact .inl now
      | inr target =>
        rw [target.1] at holds ⊢
        cases unguarded rfl with
        | inl free => rw [same, free] at holds; cases holds
        | inr noted => exact .inr (wrote.missed.subset noted)

end

section Overwriting

variable (s : Session)

/-- A request for something that is there fails: the destination is missed. -/
theorem remoteHead_failed {dest : Reference} {world : World} {err : CallError}
    (failed : (s.responses world.calls).head = some err)
    (held : world.manifests.get dest.address = some digest) :
    remoteHead s dest world =
      (.ok (.error err), ⟨world.manifests, world.calls + 1, dest.address :: world.missed⟩) := by
  unfold remoteHead
  rw [nextCall_bind, resolve_bind]
  simp only [failed, held]
  rfl

theorem remoteHead_found {dest : Reference} {world : World}
    (answered : (s.responses world.calls).head = none)
    (held : world.manifests.get dest.address = some digest) :
    remoteHead s dest world = (.ok (.ok digest), World.called world) := by
  unfold remoteHead
  rw [nextCall_bind, resolve_bind]
  simp only [answered, held]
  rfl

/-- A write, which starts with a given call, moves its destination to an entity: the manifest is
read, the write is not refused before the reference is moved, and the reference takes the
manifest. -/
structure Moves (dest : Reference) (got : EntityTree) (call : Nat) : Prop where
  /-- The manifest is read. -/
  read : (s.responses call).read = none
  /-- A write that fails has moved the reference. -/
  applied : ∀ failure, (s.responses (call + 1)).write = some failure → failure.applied = true
  /-- The reference takes the manifest. -/
  taken : fits dest.address got.digest = true

/-- A move changes a destination with another digest exactly when it takes the new one. -/
theorem move_overwrites_iff {dest : Reference} {new digest : Digest} {world : World}
    (held : world.manifests.get dest.address = some digest) (other : digest ≠ new) :
    (move dest new world).2.manifests.get dest.address ≠ some digest ↔
      fits dest.address new = true := by
  unfold move
  split
  · next taken =>
    have moved : (world.manifests.put dest.address new taken).get dest.address = some new :=
      Function.update_self ..
    simp only [moved, taken, ne_eq, Option.some.injEq, iff_true]
    exact other.symm
  · next refused => exact ⟨fun changed => absurd held changed, fun taken => absurd taken refused⟩

/-- `remoteWrite` changes a destination with another digest exactly when the reference is moved and
takes the new one. -/
theorem remoteWrite_overwrites_iff {dest : Reference} {world : World}
    (held : world.manifests.get dest.address = some digest) (other : digest ≠ tree.digest) :
    (remoteWrite s dest tree world).2.manifests.get dest.address ≠ some digest ↔
      (∀ failure, (s.responses world.calls).write = some failure → failure.applied = true) ∧
        fits dest.address tree.digest = true := by
  unfold remoteWrite
  rw [nextCall_bind]
  cases (s.responses world.calls).write with
  | none =>
    simp only [reduceCtorEq, false_imp_iff, implies_true, true_and]
    exact move_overwrites_iff (upload_keeps held _) other
  | some failure =>
    simp only [Option.some.injEq, forall_eq']
    cases applied : failure.applied with
    | true =>
      simp only [if_true, true_and]
      let uploaded : World := { World.called world with
        manifests := world.manifests.upload dest.context failure.uploaded }
      show ((move dest tree.digest >>= fun _ => fail failure.err) uploaded).2.manifests.get
        dest.address ≠ some digest ↔ _
      rw [Proc.bind_fail_state]
      exact move_overwrites_iff (upload_keeps held failure.uploaded) other
    | false =>
      simp only [Bool.false_eq_true, if_false, false_and, iff_false, not_not]
      exact upload_keeps held failure.uploaded

/-- A write changes a destination with another digest exactly when it moves it. -/
theorem writeImage_overwrites_iff {dest : Reference} {world : World}
    (held : world.manifests.get dest.address = some digest) (other : digest ≠ got.digest) :
    (writeImage s dest got world).2.manifests.get dest.address ≠ some digest ↔
      Moves s dest got world.calls := by
  have ran := readManifest_run s world
  unfold writeImage
  cases read : (s.responses world.calls).read with
  | some err =>
    simp only [read] at ran
    have failed : (readManifest s world).1 = .error err := by rw [ran]
    rw [Proc.bind_of_error failed, ran]
    refine ⟨fun changed => absurd held changed, fun moves => ?_⟩
    have := moves.read
    rw [read] at this
    cases this
  | none =>
    simp only [read] at ran
    rw [Proc.bind_of_ok ran]
    have still : (World.called world).manifests.get dest.address = some digest := held
    refine (remoteWrite_overwrites_iff s still other).trans ⟨fun both => ?_, fun moves => ?_⟩
    · exact ⟨read, both.1, both.2⟩
    · exact ⟨moves.applied, moves.taken⟩

theorem writeImage_same {dest : Reference} {world : World}
    (held : world.manifests.get dest.address = some got.digest) :
    (writeImage s dest got world).2.manifests.get dest.address = some got.digest := by
  let allowed : Tag → Digest → Prop := fun address digest =>
    address = ⟨dest.context, digest.hash.string⟩ ∨ address = dest.address ∧ got.digest = digest
  have led : Changes allowed world (writeImage s dest got world).2 :=
    writeImage_within s (fun _ => .inl rfl) (.inr ⟨rfl, rfl⟩) world
  refine led.footprint.stable (fun other place => ?_) held
  cases place with
  | inl named =>
    rw [named] at held
    exact (world.manifests.addressed _ _ _ held).symm
  | inr target => exact target.2.symm

/-- **When a call without force overwrites.** A call of `copyImage` changes a destination that has
something exactly when the source has something else, the HEAD request fails and the write moves
the destination. -/
theorem copyImage_overwrites_iff {src dest : Reference} {world : World}
    (held : world.manifests.get dest.address = some digest) :
    (copyImage s src dest false world).2.manifests.get dest.address ≠ some digest ↔
      ∃ got, getAnswer s src world.calls = .ok got ∧ digest ≠ got.digest ∧
        (s.responses (world.calls + 1)).head.isSome ∧ Moves s dest got (world.calls + 2) := by
  unfold copyImage
  rw [Proc.bind_of_ok (remoteGet_run s src world)]
  cases getAnswer s src world.calls with
  | error callErr =>
    refine ⟨fun changed => absurd ?_ changed, fun overwritten => ?_⟩
    · cases callErr with
      | other err => exact held
      | transport statusCode err =>
        by_cases notFound : statusCode = statusNotFound
        · simp only [notFound, if_true]
          exact held
        · simp only [notFound, if_false]
          exact held
    · obtain ⟨got, same, _⟩ := overwritten
      cases same
  | ok got =>
    simp only [Bool.false_eq_true, if_false, Except.ok.injEq, exists_eq_left']
    have still : (World.called world).manifests.get dest.address = some digest := held
    cases answered : (s.responses (world.calls + 1)).head with
    | none =>
      rw [Proc.bind_of_ok (remoteHead_found s answered still)]
      simp only [Option.isSome_none, Bool.false_eq_true, false_and, and_false, iff_false, not_not]
      split <;> exact held
    | some err =>
      rw [Proc.bind_of_ok (remoteHead_failed s answered still)]
      simp only [Option.isSome_some, true_and]
      by_cases same : digest = got.digest
      · rw [same] at held ⊢
        refine ⟨fun changed => absurd ?_ changed, fun both => absurd rfl both.1⟩
        exact writeImage_same s held
      · refine Iff.trans (writeImage_overwrites_iff s ?_ same) ?_
        · exact held
        · exact ⟨fun moves => ⟨same, moves⟩, fun both => both.2⟩

end Overwriting

end Cosign.Verif
