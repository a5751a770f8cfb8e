import Cosign.Go.Results
import Cosign.Tuf.Client

/-!
# Targets after an update

What `GetTarget` returns is settled by the metadata and by what the store reads (`getTarget_eq_ok`);
it asks for a SHA-512 hash whatever the metadata list. The loop of an update, whatever targets the
library returns, comes to a target if no target before it fails (`Reached`), and writes only files
of such targets (`forM_storeTarget`), where the store writes, which is not always where it reads.
-/
namespace Cosign.Verif

open Cosign.Go Cosign.Encoding Cosign.Tuf
open Cosign.Go.Proc

variable {p : TufPlatform} {calls : TufCalls p} {impl : TargetImpl} {metadata : Metadata}
  {name : String}

/-! ## One target -/

theorem getTarget_eq_ok {t : TUF} {bytes : Bytes} :
    t.getTarget p name = .ok bytes ↔
      ∃ validMeta, t.store.localMeta.targets.lookup name = some validMeta ∧
        t.targets.get p t.store name = .ok bytes ∧ Matches p.sha512 validMeta bytes := by
  unfold TUF.getTarget
  cases t.store.localMeta.targets.lookup name with
  | none => simp
  | some validMeta =>
    simp only [Option.some.injEq, exists_eq_left', bind_eq_value, ← p.equal_iff]
    constructor
    · intro ⟨read, got, localMeta, generated, rest⟩
      cases equal : p.targetFileMetaEqual localMeta validMeta with
      | some err =>
        rw [equal] at rest
        cases rest
      | none =>
        rw [equal] at rest
        cases rest
        exact ⟨got, localMeta, generated, equal⟩
    · intro ⟨got, localMeta, generated, equal⟩
      exact ⟨bytes, got, localMeta, generated, by rw [equal]⟩

/-- What `GetTarget` returns for a target that the metadata list. -/
theorem getTarget_of_listed {t : TUF} {bytes : Bytes} {validMeta : TargetFileMeta}
    (listed : t.store.localMeta.targets.lookup name = some validMeta) :
    t.getTarget p name = .ok bytes ↔
      t.targets.get p t.store name = .ok bytes ∧ Matches p.sha512 validMeta bytes := by
  rw [getTarget_eq_ok, listed]
  simp only [Option.some.injEq, exists_eq_left']

/-- What is downloaded is listed, and `GetTarget` takes it if the metadata have a SHA-512. -/
theorem downloadRemoteTarget_eq_ok {bytes : Bytes}
    (downloaded : downloadRemoteTarget calls metadata name = .ok bytes) :
    ∃ validMeta, metadata.targets.lookup name = some validMeta ∧
      (Matches p.sha512 validMeta bytes ↔ "sha512" ∈ validMeta.hashes) := by
  have ⟨validMeta, listed, checked⟩ :=
    calls.download_checked metadata name bytes (mapError_eq_ok.mp downloaded)
  exact ⟨validMeta, listed, fun found => GoMap.mem_of_lookup found.hash, checked⟩

/-! ## The loop over the targets -/

section

variable (calls impl metadata)

/-- The download and the write of a target succeed. -/
def Saves (name : String) : Prop :=
  (∃ bytes, downloadRemoteTarget calls metadata name = .ok bytes) ∧
    (impl.noCache = false → calls.write name = none)

/-- What a round leaves in the file of its target. -/
def fileAfter (name : String) (held : Option Bytes) : Option Bytes :=
  match downloadRemoteTarget calls metadata name with
  | .error _ => held
  | .ok bytes =>
    if impl.noCache then held
    else match calls.write name with
      | none => some bytes
      | some (.untouched _) => held
      | some (.torn _ left) => some left

/-- The loop comes to a target: those before it are stored. -/
inductive Reached : List String → String → Prop where
  /-- The first target. -/
  | first (name : String) (rest : List String) : Reached (name :: rest) name
  /-- A target behind one that is stored. -/
  | next {name other : String} {rest : List String} (saves : Saves calls impl metadata other)
      (later : Reached rest name) : Reached (other :: rest) name

end

theorem Reached.mem {names : List String} (reached : Reached calls impl metadata names name) :
    name ∈ names := by
  induction reached with
  | first name rest => exact List.mem_cons_self
  | next saves later ih => exact List.mem_cons_of_mem _ ih

theorem reached_of_saves {names : List String}
    (saves : ∀ other ∈ names, Saves calls impl metadata other) (listed : name ∈ names) :
    Reached calls impl metadata names name := by
  induction names with
  | nil => cases listed
  | cons first rest ih =>
    cases List.mem_cons.mp listed with
    | inl same => exact same ▸ .first name rest
    | inr later =>
      apply Reached.next (saves first List.mem_cons_self)
      exact ih (fun other inside => saves other (List.mem_cons_of_mem _ inside)) later

theorem fileAfter_fileAfter (held : Option Bytes) :
    fileAfter calls impl metadata name (fileAfter calls impl metadata name held) =
      fileAfter calls impl metadata name held := by
  unfold fileAfter
  cases downloadRemoteTarget calls metadata name with
  | error err => rfl
  | ok bytes =>
    cases impl.noCache with
    | true => rfl
    | false =>
      cases calls.write name with
      | none => rfl
      | some fault => cases fault <;> rfl

theorem storeTarget_spec (name : String) (store : Store) :
    (storeTarget calls impl name store).2.localMeta = store.localMeta ∧
    (storeTarget calls impl name store).2.disk = Function.update store.disk name
      (fileAfter calls impl store.localMeta name (store.disk name)) ∧
    ((storeTarget calls impl name store).1 = .ok () ↔ Saves calls impl store.localMeta name) := by
  unfold storeTarget fileAfter Saves TargetImpl.set
  cases downloadRemoteTarget calls store.localMeta name with
  | error err => simp
  | ok b =>
    cases impl.noCache with
    | true => simp
    | false =>
      cases calls.write name with
      | none => simp
      | some fault => cases fault <;> simp

/-- What the loop over some targets does to a store, whether it returns or fails. -/
structure LoopEffect (calls : TufCalls p) (impl : TargetImpl) (names : List String)
    (before : Store) (result : Except GoError Unit × Store) : Prop where
  /-- The metadata are the same. -/
  localMeta : result.2.localMeta = before.localMeta
  /-- The file of a target that the loop comes to. -/
  reached : ∀ name, Reached calls impl before.localMeta names name →
    result.2.disk name = fileAfter calls impl before.localMeta name (before.disk name)
  /-- Any other file. -/
  unreached : ∀ name, ¬Reached calls impl before.localMeta names name →
    result.2.disk name = before.disk name
  /-- When it returns. -/
  succeeds : result.1 = .ok () ↔ ∀ name ∈ names, Saves calls impl before.localMeta name

theorem LoopEffect.stop {first : String} {rest : List String} {store next : Store} {err : GoError}
    (round : storeTarget calls impl first store = (.error err, next)) :
    LoopEffect calls impl (first :: rest) store (.error err, next) := by
  have ⟨kept, written, succeeds⟩ := @storeTarget_spec p calls impl first store
  rw [round] at kept written succeeds
  have fails : ¬Saves calls impl store.localMeta first := fun saves => nomatch succeeds.mpr saves
  refine ⟨kept, fun name reached => ?_, fun name unreached => ?_, ?_⟩
  · cases reached with
    | first => exact (congrFun written first).trans (Function.update_self ..)
    | next saves later => exact absurd saves fails
  · have other : name ≠ first := fun same => unreached (same ▸ .first name rest)
    exact (congrFun written name).trans (Function.update_of_ne other ..)
  · exact ⟨nofun, fun all => absurd (all first List.mem_cons_self) fails⟩

theorem LoopEffect.cons {first : String} {rest : List String} {store next : Store}
    {result : Except GoError Unit × Store}
    (round : storeTarget calls impl first store = (.ok (), next))
    (effect : LoopEffect calls impl rest next result) :
    LoopEffect calls impl (first :: rest) store result := by
  have ⟨kept, written, succeeds⟩ := @storeTarget_spec p calls impl first store
  rw [round] at kept written succeeds
  have same : next.localMeta = store.localMeta := kept
  have saves := succeeds.mp rfl
  have ⟨localMeta, reachedRest, unreachedRest, succeedsRest⟩ := effect
  rw [same] at localMeta reachedRest unreachedRest succeedsRest
  have own : next.disk first = fileAfter calls impl store.localMeta first (store.disk first) :=
    (congrFun written first).trans (Function.update_self ..)
  have others {name : String} (other : name ≠ first) : next.disk name = store.disk name :=
    (congrFun written name).trans (Function.update_of_ne other ..)
  refine ⟨localMeta, fun name reached => ?_, fun name unreached => ?_, ?_⟩
  · by_cases later : Reached calls impl store.localMeta rest name
    · rw [reachedRest name later]
      by_cases again : name = first
      · rw [again, own, fileAfter_fileAfter]
      · rw [others again]
    · cases reached with
      | first => rw [unreachedRest first later, own]
      | next _ again => exact absurd again later
  · have other : name ≠ first := fun same => unreached (same ▸ .first name rest)
    rw [unreachedRest name fun later => unreached (.next saves later), others other]
  · rw [succeedsRest, List.forall_mem_cons]
    exact ⟨fun all => ⟨saves, all⟩, fun all => all.2⟩

theorem forM_storeTarget (names : List String) (store : Store) :
    LoopEffect calls impl names store (names.forM (storeTarget calls impl) store) := by
  induction names generalizing store with
  | nil =>
    refine ⟨rfl, fun name reached => ?_, fun _ _ => rfl, ?_⟩
    · cases reached
    · exact ⟨fun _ _ inside => absurd inside List.not_mem_nil, fun _ => rfl⟩
  | cons first rest ih =>
    cases round : storeTarget calls impl first store with
    | mk outcome next =>
      cases outcome with
      | error err =>
        have ends : (first :: rest).forM (storeTarget calls impl) store = _ :=
          bind_of_error (congrArg Prod.fst round)
        rw [ends, round]
        exact .stop round
      | ok value =>
        have goesOn : (first :: rest).forM (storeTarget calls impl) store = _ := bind_of_ok round
        rw [goesOn]
        exact .cons round (ih next)

/-! ## Updates -/

/-- The targets that the loop of an update is over: none if the update has failed. -/
def visited (outcome : UpdateOutcome) : List String :=
  match outcome.err with
  | some (.other _) => []
  | _ => outcome.targetFiles

/-- **What an update does**, whether it returns or fails: it commits the metadata and goes through
the loop, and returns only if the loop does. -/
theorem update_effect (store : Store) : ∃ result,
    LoopEffect calls impl (visited (calls.update store.localMeta))
      { store with localMeta := (calls.update store.localMeta).localMeta }
      (result, (updateMetadataAndDownloadTargets calls impl store).2) ∧
    ((updateMetadataAndDownloadTargets calls impl store).1 = .ok () → result = .ok () ∧
      visited (calls.update store.localMeta) = (calls.update store.localMeta).targetFiles) := by
  unfold updateMetadataAndDownloadTargets visited
  dsimp only
  cases (calls.update store.localMeta).err with
  | none => exact ⟨_, forM_storeTarget _ _, fun returned => ⟨returned, rfl⟩⟩
  | some err =>
    cases err with
    | latestSnapshot => exact ⟨_, forM_storeTarget _ _, fun returned => ⟨returned, rfl⟩⟩
    | other err => exact ⟨.ok (), forM_storeTarget [] _, nofun⟩

/-- An update that returns has stored every target that the library has returned, and written no
other file. -/
structure Updated (calls : TufCalls p) (impl : TargetImpl) (outcome : UpdateOutcome)
    (before after : Store) : Prop where
  /-- The metadata are committed. -/
  localMeta : after.localMeta = outcome.localMeta
  /-- Every target is downloaded, and written unless the cache is off. -/
  stored : ∀ name ∈ outcome.targetFiles, ∃ bytes,
    downloadRemoteTarget calls outcome.localMeta name = .ok bytes ∧
      after.disk name = if impl.noCache then before.disk name else some bytes
  /-- No other file is written. -/
  others : ∀ name ∉ outcome.targetFiles, after.disk name = before.disk name

theorem updated_of_ok {store final : Store}
    (ran : updateMetadataAndDownloadTargets calls impl store = (.ok (), final)) :
    Updated calls impl (calls.update store.localMeta) store final := by
  have ⟨result, effect, returns⟩ := @update_effect p calls impl store
  rw [ran] at effect returns
  have ⟨returned, all⟩ := returns rfl
  rw [all] at effect
  have saves := effect.succeeds.mp returned
  refine ⟨effect.localMeta, fun name listed => ?_, fun name unlisted => ?_⟩
  · have ⟨⟨bytes, downloads⟩, writes⟩ := saves name listed
    refine ⟨bytes, downloads, (effect.reached name (reached_of_saves saves listed)).trans ?_⟩
    unfold fileAfter
    rw [downloads]
    cases off : impl.noCache with
    | true => rfl
    | false =>
      rw [writes off]
  · exact effect.unreached name fun reached => unlisted reached.mem

theorem get_congr {before after : Store} (same : after.disk name = before.disk name) :
    impl.get p after name = impl.get p before name := by
  unfold TargetImpl.get fileGet
  rw [same]

/-- What a store reads after it has downloaded a target: the target, if it reads where it writes,
and else what it read before. -/
theorem get_stored_iff {before after : Store} {bytes : Bytes}
    (held : after.disk name = if impl.noCache then before.disk name else some bytes) :
    impl.get p after name = .ok bytes ↔
      (impl.embedded = false ∧ impl.noCache = false) ∨ impl.get p before name = .ok bytes := by
  cases embedded : impl.embedded with
  | true => simp [TargetImpl.get, embedded]
  | false =>
    cases cached : impl.noCache with
    | true =>
      rw [cached] at held
      rw [get_congr held]
      simp
    | false =>
      rw [cached] at held
      simp [TargetImpl.get, fileGet, embedded, held]

/-- **When an update is visible.** Whatever targets the library returns: after an update that
returns, `GetTarget` returns a target that was downloaded exactly when the metadata have its SHA-512
and the store reads where it writes, or had the target already. A target that was not downloaded and
whose metadata are the same is returned as before. -/
theorem update_visible_iff {store final : Store}
    (ran : updateMetadataAndDownloadTargets calls impl store = (.ok (), final))
    (mirror : String) :
    (∀ name ∈ (calls.update store.localMeta).targetFiles, ∃ bytes validMeta,
      downloadRemoteTarget calls final.localMeta name = .ok bytes ∧
      final.localMeta.targets.lookup name = some validMeta ∧
      ((⟨impl, mirror, final⟩ : TUF).getTarget p name = .ok bytes ↔
        "sha512" ∈ validMeta.hashes ∧
          ((impl.embedded = false ∧ impl.noCache = false) ∨ impl.get p store name = .ok bytes))) ∧
    ∀ name ∉ (calls.update store.localMeta).targetFiles,
      final.localMeta.targets.lookup name = store.localMeta.targets.lookup name →
      (⟨impl, mirror, final⟩ : TUF).getTarget p name =
        (⟨impl, mirror, store⟩ : TUF).getTarget p name := by
  have updated := updated_of_ok ran
  rw [updated.localMeta]
  constructor
  · intro name returned
    have ⟨bytes, downloads, held⟩ := updated.stored name returned
    have ⟨validMeta, listed, hashed⟩ := downloadRemoteTarget_eq_ok downloads
    have now : final.localMeta.targets.lookup name = some validMeta := updated.localMeta ▸ listed
    refine ⟨bytes, validMeta, downloads, listed, ?_⟩
    rw [getTarget_of_listed now, hashed, get_stored_iff held, and_comm]
  · intro name unreturned same
    unfold TUF.getTarget
    simp only [updated.localMeta, same, get_congr (updated.others name unreturned)]

/-- Metadata with one target, by its content. -/
def keyMetadata (content : Bytes) (expiration : Int) : Metadata where
  timestamp := some (.ok expiration)
  targets := AList.singleton "rekor.pub" ⟨content.length, AList.singleton "sha512" content⟩

/-- A program that is built with one target. -/
def keyPlatform : TufPlatform where
  sha512 := id
  generateTargetFileMeta bytes := .ok ⟨bytes.length, AList.singleton "sha512" bytes⟩
  targetFileMetaEqual actual expected :=
    if actual.length ≠ expected.length then some ⟨"wrong length"⟩
    else if actual.hashes.lookup "sha512" ≠ expected.hashes.lookup "sha512" then
      some ⟨"wrong hash"⟩
    else none
  equal_iff validMeta bytes := by
    have own : (AList.singleton "sha512" bytes : GoMap Bytes).lookup "sha512" = some bytes := rfl
    constructor
    · intro ⟨localMeta, generated, equal⟩
      cases generated
      split at equal
      · cases equal
      · rename_i length
        split at equal
        · cases equal
        · rename_i hash
          exact ⟨not_not.mp length, (not_not.mp hash).symm⟩
    · intro found
      exact ⟨_, rfl, by simp [found.length, found.hash, own]⟩
  embeddedFile name := if name = "rekor.pub" then .ok [1] else .error ⟨"file does not exist"⟩
  embeddedLocalStore := .ok (keyMetadata [1] 0)
  goos := "linux"

/-- A run in which the target has changed. -/
def keyCalls : TufCalls keyPlatform where
  update _ := { localMeta := keyMetadata [2, 3] 100, targetFiles := ["rekor.pub"] }
  download metadata name := do
    let some validMeta := metadata.targets.lookup name | .error ⟨"unknown target file"⟩
    if validMeta.length = 2 ∧ validMeta.hashes.lookup "sha512" = some [2, 3] then .ok [2, 3]
    else .error ⟨"wrong hash"⟩
  download_checked metadata name bytes downloaded := by
    split at downloaded
    · rename_i validMeta listed
      split at downloaded
      · rename_i fits
        cases downloaded
        exact ⟨validMeta, listed, fun _ => ⟨fits.1.symm, fits.2⟩⟩
      · cases downloaded
    · cases downloaded

/-- The client of that program before it is updated. -/
def keyStore : Store := ⟨keyMetadata [1] 0, fun _ => none, fun _ => none⟩

/-- The embedded store with the cache on: the update returns, and the target that was downloaded
is not returned. -/
theorem embedded_update_invisible : ∃ final,
    updateMetadataAndDownloadTargets keyCalls ⟨true, false⟩ keyStore = (.ok (), final) ∧
    downloadRemoteTarget keyCalls final.localMeta "rekor.pub" = .ok [2, 3] ∧
    (⟨⟨true, false⟩, "", final⟩ : TUF).getTarget keyPlatform "rekor.pub" =
      .error ⟨"wrong length"⟩ :=
  ⟨_, rfl, rfl, rfl⟩

/-- The file store with the cache on returns the target that was downloaded. -/
theorem update_visible_iff_file : ∃ final,
    updateMetadataAndDownloadTargets keyCalls ⟨false, false⟩ keyStore = (.ok (), final) ∧
    (⟨⟨false, false⟩, "", final⟩ : TUF).getTarget keyPlatform "rekor.pub" = .ok [2, 3] := by
  have ⟨final, ran, committed⟩ : ∃ final,
      updateMetadataAndDownloadTargets keyCalls ⟨false, false⟩ keyStore = (.ok (), final) ∧
        final.localMeta = keyMetadata [2, 3] 100 := ⟨_, rfl, rfl⟩
  have ⟨bytes, validMeta, downloads, listed, iff⟩ :=
    (update_visible_iff ran "").1 "rekor.pub" List.mem_cons_self
  rw [committed] at downloads listed
  cases downloads
  cases listed
  exact ⟨final, ran, iff.mpr ⟨by decide +kernel, .inl ⟨rfl, rfl⟩⟩⟩

end Cosign.Verif
