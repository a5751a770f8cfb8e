import Cosign.Verif.TufTargets

/-!
# The cache directory over many runs

The metadata in `tuf.db` and the files of the targets directory are written one after the other, and
runs can stop in between. Whether every listed target can be fetched (`Complete`) after a run that
updates is settled by the calls of the run and by the directory before it (`complete_update_iff`). A
run that fails after its commit leaves targets listed that are not stored, and while the timestamp
is fresh no run notices.
-/
namespace Cosign.Verif

open Cosign.Go Cosign.Encoding Cosign.Tuf

variable {p : TufPlatform} {calls : TufCalls p} {cache : Cache}

/-- A target is listed in the store of a cache directory. -/
def Listed (cache : Cache) (name : String) (validMeta : TargetFileMeta) : Prop :=
  ∃ metadata, cache.db = some metadata ∧ metadata.targets.lookup name = some validMeta

/-- The file of a target is what its metadata ask for. -/
def Fetchable (p : TufPlatform) (held : Option Bytes) (validMeta : TargetFileMeta) : Prop :=
  ∃ bytes, held = some bytes ∧ Matches p.sha512 validMeta bytes

/-- Every listed target can be fetched. -/
def Complete (p : TufPlatform) (cache : Cache) : Prop :=
  ∀ name validMeta, Listed cache name validMeta → Fetchable p (cache.targets name) validMeta

/-- The file store with the cache on. -/
abbrev onDisk : TargetImpl := ⟨false, false⟩

/-! ## The files after an update -/

/-- The loop overwrites the file of a target: it comes to it, and neither the download fails nor
the write before it has begun. -/
def Overwrites (calls : TufCalls p) (outcome : UpdateOutcome) (name : String) : Prop :=
  Reached calls onDisk outcome.localMeta (visited outcome) name ∧
    (∃ bytes, downloadRemoteTarget calls outcome.localMeta name = .ok bytes) ∧
    ∀ err, calls.write name ≠ some (.untouched err)

/-- How the file of a listed target comes to be right in an update, by the calls of the update and
the file before it. -/
inductive TargetKept (calls : TufCalls p) (outcome : UpdateOutcome) (name : String)
    (validMeta : TargetFileMeta) (held : Option Bytes) : Prop where
  /-- The target is stored, and it has a SHA-512. -/
  | stored (overwrites : Overwrites calls outcome name) (writes : calls.write name = none)
      (hashed : "sha512" ∈ validMeta.hashes)
  /-- The write fails, and what it leaves is right. -/
  | torn (overwrites : Overwrites calls outcome name) (err : GoError) (left : Bytes)
      (fails : calls.write name = some (.torn err left))
      (right : Matches p.sha512 validMeta left)
  /-- The file is not written and was right. -/
  | unwritten (passed : ¬Overwrites calls outcome name) (right : Fetchable p held validMeta)

theorem disk_of_not_overwrites {store : Store} {name : String}
    (passed : ¬Overwrites calls (calls.update store.localMeta) name) :
    (updateMetadataAndDownloadTargets calls onDisk store).2.disk name = store.disk name := by
  have ⟨result, effect, _⟩ := @update_effect p calls onDisk store
  by_cases reached : Reached calls onDisk (calls.update store.localMeta).localMeta
      (visited (calls.update store.localMeta)) name
  · rw [effect.reached name reached]
    unfold fileAfter
    cases downloads : downloadRemoteTarget calls (calls.update store.localMeta).localMeta name with
    | error err => rfl
    | ok bytes =>
      have fails := not_forall.mp fun writes => passed ⟨reached, ⟨bytes, downloads⟩, writes⟩
      have ⟨err, untouched⟩ := fails
      rw [not_not.mp untouched]
      rfl
  · exact effect.unreached name reached

theorem disk_of_overwrites {store : Store} {name : String}
    (overwrites : Overwrites calls (calls.update store.localMeta) name) :
    (∃ bytes, downloadRemoteTarget calls (calls.update store.localMeta).localMeta name = .ok bytes ∧
      calls.write name = none ∧
      (updateMetadataAndDownloadTargets calls onDisk store).2.disk name = some bytes) ∨
    ∃ err left, calls.write name = some (.torn err left) ∧
      (updateMetadataAndDownloadTargets calls onDisk store).2.disk name = some left := by
  have ⟨result, effect, _⟩ := @update_effect p calls onDisk store
  have ⟨reached, ⟨bytes, downloads⟩, touched⟩ := overwrites
  have held := effect.reached name reached
  unfold fileAfter at held
  rw [downloads] at held
  cases writes : calls.write name with
  | none =>
    rw [writes] at held
    exact .inl ⟨bytes, downloads, rfl, held⟩
  | some fault =>
    rw [writes] at held
    cases fault with
    | untouched err => exact absurd writes (touched err)
    | torn err left => exact .inr ⟨err, left, rfl, held⟩

/-- The file of a listed target is right after an update exactly if it is kept. -/
theorem fetchable_update_iff {store : Store} {name : String} {validMeta : TargetFileMeta}
    (listed : (calls.update store.localMeta).localMeta.targets.lookup name = some validMeta) :
    Fetchable p ((updateMetadataAndDownloadTargets calls onDisk store).2.disk name) validMeta ↔
      TargetKept calls (calls.update store.localMeta) name validMeta (store.disk name) := by
  constructor
  · intro fetched
    by_cases overwrites : Overwrites calls (calls.update store.localMeta) name
    · have ⟨bytes, held, right⟩ := fetched
      cases disk_of_overwrites overwrites with
      | inl stored =>
        have ⟨_, _, writes, _⟩ := stored
        exact .stored overwrites writes (GoMap.mem_of_lookup right.hash)
      | inr torn =>
        have ⟨err, left, fails, now⟩ := torn
        cases held.symm.trans now
        exact .torn overwrites err bytes fails right
    · exact .unwritten overwrites (disk_of_not_overwrites overwrites ▸ fetched)
  · intro kept
    cases kept with
    | stored overwrites writes hashed =>
      cases disk_of_overwrites overwrites with
      | inl stored =>
        have ⟨bytes, downloads, _, now⟩ := stored
        have ⟨found, again, checked⟩ := downloadRemoteTarget_eq_ok downloads
        cases again.symm.trans listed
        exact ⟨bytes, now, checked.mpr hashed⟩
      | inr torn =>
        have ⟨err, left, fails, _⟩ := torn
        cases writes.symm.trans fails
    | torn overwrites err left fails right =>
      cases disk_of_overwrites overwrites with
      | inl stored =>
        have ⟨bytes, _, writes, _⟩ := stored
        cases writes.symm.trans fails
      | inr torn =>
        have ⟨err', left', fails', now⟩ := torn
        cases fails.symm.trans fails'
        exact ⟨left, now, right⟩
    | unwritten passed right =>
      rw [disk_of_not_overwrites passed]
      exact right

/-! ## One call -/

/-- The client before an update. -/
def startStore (cache : Cache) : Store := ⟨cache.db.getD .none, fun _ => none, cache.targets⟩

/-- Every target that the update of a directory lists is kept. -/
def KeepsAll (calls : TufCalls p) (cache : Cache) : Prop :=
  ∀ name validMeta,
    (calls.update (startStore cache).localMeta).localMeta.targets.lookup name = some validMeta →
    TargetKept calls (calls.update (startStore cache).localMeta) name validMeta (cache.targets name)

/-- The directory after its store was opened. -/
def Cache.opened (cache : Cache) : Cache := { cache with db := some (cache.db.getD .none) }

/-- The directory after an update. -/
def Cache.updated (calls : TufCalls p) (cache : Cache) : Cache :=
  (Cache.opened cache).keep false
    (updateMetadataAndDownloadTargets calls onDisk (startStore cache)).2

/-- A directory without a store lists what one with empty metadata does. -/
theorem listed_iff {name : String} {validMeta : TargetFileMeta} : Listed cache name validMeta ↔
    (startStore cache).localMeta.targets.lookup name = some validMeta := by
  unfold Listed startStore
  cases cache.db with
  | none => simp [Metadata.none]
  | some metadata => simp

theorem complete_opened : Complete p (Cache.opened cache) ↔ Complete p cache := by
  simp only [Complete, listed_iff]
  rfl

/-- **A directory is complete after an update** exactly if every listed target is kept. -/
theorem complete_update_iff : Complete p (Cache.updated calls cache) ↔ KeepsAll calls cache := by
  have ⟨result, effect, _⟩ := @update_effect p calls onDisk (startStore cache)
  have committed : (updateMetadataAndDownloadTargets calls onDisk (startStore cache)).2.localMeta =
      (calls.update (startStore cache).localMeta).localMeta := effect.localMeta
  have listed (name : String) (validMeta : TargetFileMeta) :
      Listed (Cache.updated calls cache) name validMeta ↔
        (calls.update (startStore cache).localMeta).localMeta.targets.lookup name =
          some validMeta := by
    unfold Listed Cache.updated Cache.keep
    simp [committed]
  unfold Complete KeepsAll
  refine forall_congr' fun name => forall_congr' fun validMeta => ?_
  rw [listed]
  exact imp_congr_right fetchable_update_iff

/-- A call of `initializeTUF` comes to its update. -/
structure ComesToUpdate (calls : TufCalls p) (rootGiven forceUpdate : Bool) (cache : Cache) :
    Prop where
  opens : calls.openStore = none
  /-- The client is prepared. -/
  prepares : prepareError calls rootGiven = none
  /-- The timestamp is not fresh, or the update is forced. -/
  due : (isFresh calls.now (cache.db.getD .none) && !forceUpdate) = false

section

variable {mirror : String} {rootGiven forceUpdate : Bool}

/-- A call that comes to its update returns a client only if the update returns. -/
theorem initializeTUF_updates (comes : ComesToUpdate calls rootGiven forceUpdate cache) :
    (initializeTUF calls false false mirror rootGiven forceUpdate cache).2 =
      Cache.updated calls cache ∧
    ∀ t, (initializeTUF calls false false mirror rootGiven forceUpdate cache).1 = .ok t →
      ∃ store, t = ⟨onDisk, mirror, store⟩ ∧
        updateMetadataAndDownloadTargets calls onDisk (startStore cache) = (.ok (), store) := by
  unfold initializeTUF openLocal Cache.updated Cache.opened startStore
  simp only [Bool.false_eq_true, if_false, comes.opens, comes.prepares, comes.due]
  cases updateMetadataAndDownloadTargets calls onDisk
      ⟨cache.db.getD .none, fun _ => none, cache.targets⟩ with
  | mk outcome store =>
    cases outcome with
    | error err => exact ⟨rfl, nofun⟩
    | ok value => exact ⟨rfl, fun t returned => ⟨store, (Except.ok.inj returned).symm, rfl⟩⟩

/-- A call that does not come to its update leaves the directory as it is. -/
theorem initializeTUF_stays (stays : ¬ComesToUpdate calls rootGiven forceUpdate cache) :
    ((initializeTUF calls false false mirror rootGiven forceUpdate cache).2 = cache ∨
      (initializeTUF calls false false mirror rootGiven forceUpdate cache).2 =
        Cache.opened cache) ∧
    ∀ t, (initializeTUF calls false false mirror rootGiven forceUpdate cache).1 = .ok t →
      t = ⟨onDisk, mirror, startStore cache⟩ := by
  unfold initializeTUF openLocal Cache.opened startStore
  simp only [Bool.false_eq_true, if_false]
  cases opens : calls.openStore with
  | some fault =>
    have ⟨err, there⟩ := fault
    cases there with
    | true => exact ⟨.inr rfl, nofun⟩
    | false => exact ⟨.inl rfl, nofun⟩
  | none =>
    cases prepares : prepareError calls rootGiven with
    | some err => exact ⟨.inr rfl, nofun⟩
    | none =>
      have fresh : (isFresh calls.now (cache.db.getD .none) && !forceUpdate) = true :=
        Bool.not_eq_false _ ▸ fun due => stays ⟨opens, prepares, due⟩
      dsimp only
      rw [if_pos fresh]
      exact ⟨.inr rfl, fun t returned => (Except.ok.inj returned).symm⟩

theorem complete_initializeTUF_updates
    (comes : ComesToUpdate calls rootGiven forceUpdate cache) :
    Complete p (initializeTUF calls false false mirror rootGiven forceUpdate cache).2 ↔
      KeepsAll calls cache := by
  rw [(initializeTUF_updates comes).1]
  exact complete_update_iff

theorem complete_initializeTUF_stays (stays : ¬ComesToUpdate calls rootGiven forceUpdate cache) :
    Complete p (initializeTUF calls false false mirror rootGiven forceUpdate cache).2 ↔
      Complete p cache := by
  cases (initializeTUF_stays stays).1 with
  | inl same => rw [same]
  | inr opened =>
    rw [opened]
    exact complete_opened

end

/-- The client returns every target that it lists. -/
def FetchesAll (p : TufPlatform) (t : TUF) : Prop :=
  ∀ name validMeta, t.store.localMeta.targets.lookup name = some validMeta →
    ∃ bytes, t.getTarget p name = .ok bytes

/-- A client of the file store returns every target exactly if the files are right. -/
theorem fetchesAll_iff {mirror : String} {store : Store} :
    FetchesAll p ⟨onDisk, mirror, store⟩ ↔ ∀ name validMeta,
      store.localMeta.targets.lookup name = some validMeta →
        Fetchable p (store.disk name) validMeta := by
  refine forall_congr' fun name => forall_congr' fun validMeta => imp_congr_right fun listed => ?_
  refine exists_congr fun bytes => ?_
  rw [getTarget_of_listed listed]
  unfold TargetImpl.get fileGet
  cases store.disk name <;> simp

/-- A client that is made without an update returns every target exactly if the directory is
complete. -/
theorem fetchesAll_start_iff {mirror : String} :
    FetchesAll p ⟨onDisk, mirror, startStore cache⟩ ↔ Complete p cache := by
  simp only [fetchesAll_iff, Complete, listed_iff]
  rfl

/-- A client that is made with an update returns every target exactly if each one that the library
has returned has a SHA-512 and the file of each other one was right. -/
theorem fetchesAll_updated_iff {mirror : String} {store : Store}
    (ran : updateMetadataAndDownloadTargets calls onDisk (startStore cache) = (.ok (), store)) :
    FetchesAll p ⟨onDisk, mirror, store⟩ ↔ ∀ name validMeta,
      store.localMeta.targets.lookup name = some validMeta →
        if name ∈ (calls.update (startStore cache).localMeta).targetFiles then
          "sha512" ∈ validMeta.hashes
        else Fetchable p (cache.targets name) validMeta := by
  have updated := updated_of_ok ran
  rw [fetchesAll_iff]
  refine forall_congr' fun name => forall_congr' fun validMeta => imp_congr_right fun listed => ?_
  split
  · rename_i returned
    have ⟨bytes, downloads, held⟩ := updated.stored name returned
    have ⟨found, again, checked⟩ := downloadRemoteTarget_eq_ok downloads
    rw [updated.localMeta] at listed
    cases again.symm.trans listed
    rw [held, ← checked]
    simp [Fetchable]
  · rename_i unreturned
    rw [updated.others name unreturned]
    rfl

/-! ## Many runs -/

/-- What is done in a run. -/
def runCalls : TufRun p → TufCalls p
  | .initializeFrom calls _ _ => calls
  | .newFromEnv calls => calls

/-- A run comes to its update of the directory. -/
def Updates (cache : Cache) : TufRun p → Prop
  | .initializeFrom calls _ rootGiven => ComesToUpdate calls rootGiven true cache
  | .newFromEnv calls =>
    calls.stat = none ∧ cache.db ≠ none ∧ ComesToUpdate calls false false cache

theorem complete_congr {other : Cache} (db : other.db = cache.db)
    (targets : other.targets = cache.targets) : Complete p other ↔ Complete p cache := by
  unfold Complete Listed
  rw [db, targets]

/-- `Initialize` leaves the store and the files of its `initializeTUF`. -/
theorem complete_initializeFrom {mirror : String} {rootGiven : Bool} :
    Complete p (initializeFrom calls false mirror rootGiven cache).2 ↔
      Complete p (initializeTUF calls false false mirror rootGiven true cache).2 := by
  unfold initializeFrom
  cases initializeTUF calls false false mirror rootGiven true cache with
  | mk outcome next =>
    cases outcome with
    | error err => rfl
    | ok t => cases calls.storeRemote <;> exact complete_congr rfl rfl

theorem complete_of_absent (absent : cache.db = none) : Complete p cache := by
  intro name validMeta ⟨metadata, there, _⟩
  cases absent.symm.trans there

theorem newFromEnv_absent (absent : cache.db = none) :
    (newFromEnv calls false cache).2.db = none := by
  unfold newFromEnv initializeTUF openLocal Cache.keep
  cases calls.stat with
  | some err => exact absent
  | none =>
    simp only [absent, Option.isNone_none, if_true]
    cases p.embeddedLocalStore with
    | error err => exact absent
    | ok trustedMeta =>
      cases prepareError calls false with
      | some err => exact absent
      | none =>
        dsimp only
        split
        · exact absent
        · split <;> exact absent

theorem newFromEnv_there (stat : calls.stat = none) (there : cache.db ≠ none) :
    newFromEnv calls false cache = initializeTUF calls false false
      (cache.remote.getD defaultRemoteRoot) false false cache := by
  have present : cache.db.isNone = false := Option.isNone_eq_false_iff.mpr
    (Option.isSome_iff_ne_none.mpr there)
  unfold newFromEnv
  rw [stat, present]

/-- A run that comes to its update leaves a complete directory exactly if it keeps every target. -/
theorem complete_run_updates {run : TufRun p} (updates : Updates cache run) :
    Complete p (run.run cache) ↔ KeepsAll (runCalls run) cache := by
  cases run with
  | initializeFrom calls mirror rootGiven =>
    exact complete_initializeFrom.trans (complete_initializeTUF_updates updates)
  | newFromEnv calls =>
    have ⟨stat, there, comes⟩ := updates
    show Complete p (newFromEnv calls false cache).2 ↔ _
    rw [newFromEnv_there stat there]
    exact complete_initializeTUF_updates comes

theorem complete_run_stays {run : TufRun p} (stays : ¬Updates cache run) :
    Complete p (run.run cache) ↔ Complete p cache := by
  cases run with
  | initializeFrom calls mirror rootGiven =>
    exact complete_initializeFrom.trans (complete_initializeTUF_stays stays)
  | newFromEnv calls =>
    show Complete p (newFromEnv calls false cache).2 ↔ _
    by_cases there : cache.db = none
    · exact iff_of_true (complete_of_absent (newFromEnv_absent there)) (complete_of_absent there)
    · cases stat : calls.stat with
      | some err =>
        unfold newFromEnv
        rw [stat]
      | none =>
        rw [newFromEnv_there stat there]
        exact complete_initializeTUF_stays fun comes => stays ⟨stat, there, comes⟩

/-- Each run of a list that comes to its update keeps every target. -/
def KeptThroughout : Cache → List (TufRun p) → Prop
  | _, [] => True
  | cache, run :: rest =>
    (Updates cache run → KeepsAll (runCalls run) cache) ∧ KeptThroughout (run.run cache) rest

/-- Over a list of runs the directory is complete all the time exactly when each run keeps every
target. -/
theorem complete_throughout_iff (complete : Complete p cache) (runs : List (TufRun p)) :
    (∀ k, Complete p (TufRun.runAll cache (runs.take k))) ↔ KeptThroughout cache runs := by
  induction runs generalizing cache with
  | nil => simpa [TufRun.runAll, KeptThroughout] using complete
  | cons run rest ih =>
    have one : Complete p (run.run cache) ↔
        (Updates cache run → KeepsAll (runCalls run) cache) := by
      by_cases updates : Updates cache run
      · rw [complete_run_updates updates]
        exact ⟨fun keeps _ => keeps, fun keeps => keeps updates⟩
      · rw [complete_run_stays updates]
        exact ⟨fun _ comes => absurd comes updates, fun _ => complete⟩
    constructor
    · intro throughout
      have next : Complete p (run.run cache) := throughout 1
      exact ⟨one.mp next, (ih next).mp fun k => throughout (k + 1)⟩
    · intro kept k
      cases k with
      | zero => exact complete
      | succ k => exact (ih (one.mpr kept.1)).mpr kept.2 k

/-- A directory that is not complete is opened, while its timestamp is fresh, without an error and
with a target that cannot be fetched. -/
theorem incomplete_exposed {metadata : Metadata} (incomplete : ¬Complete p cache)
    (there : cache.db = some metadata) (fresh : isFresh calls.now metadata)
    (stat : calls.stat = none) (opens : calls.openStore = none)
    (prepares : prepareError calls false = none) :
    ∃ t, (newFromEnv calls false cache).1 = .ok t ∧ t.targets = onDisk ∧ ¬FetchesAll p t := by
  have opened : (newFromEnv calls false cache).1 =
      .ok ⟨onDisk, cache.remote.getD defaultRemoteRoot, startStore cache⟩ := by
    unfold newFromEnv initializeTUF openLocal startStore
    simp [stat, there, opens, prepares, fresh]
  exact ⟨_, opened, rfl, fun fetches => incomplete (fetchesAll_start_iff.mp fetches)⟩

/-- A run in which the new metadata are committed and the download of the target fails. -/
def interruptedCalls : TufCalls keyPlatform :=
  { keyCalls with download := fun _ _ => .error ⟨"unexpected EOF"⟩, download_checked := nofun }

/-- A cache directory that does not exist yet. -/
def noCacheDirectory : Cache := ⟨none, fun _ => none, none⟩

end Cosign.Verif
