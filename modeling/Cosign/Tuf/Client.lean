import Cosign.Encoding.Bytes
import Cosign.Go.Map
import Cosign.Go.Proc

/-!
# The TUF client and its cache

`initializeTUF` opens a store of trusted metadata, embedded in the program or in the cache
directory, and updates it when its timestamp has expired: it commits the new metadata and then
downloads the targets that were returned, one by one. An embedded store reads the program's own
files and a file store the cache directory, while either writes to the cache directory, or to memory
if the cache is off.

The metadata of a store are the expiry of its timestamp and its list of targets. What the library
and the disk do in a run is given by `TufCalls`: each call may fail, an update may commit any
metadata and return any targets, and a failed write may leave a torn file. A target has a name in
normal form, so that every name is a file of its own.
-/
namespace Cosign.Tuf

open Cosign.Go Cosign.Encoding

/-- `data.TargetFileMeta`: the length of a target and its hashes, by algorithm. -/
structure TargetFileMeta where
  /-- Length of the target. -/
  length : Nat
  /-- Hashes of the target. -/
  hashes : GoMap Bytes
  deriving DecidableEq

/-- A target with its name, as an entry of `data.TargetFiles`. -/
abbrev TargetEntry : Type := Sigma fun _ : String => TargetFileMeta

/-- Metadata that a local store trusts. -/
structure Metadata where
  /-- What `getExpiration` reads from `timestamp.json`, if there is one. -/
  timestamp : Option (Except GoError Int)
  /-- The targets of `targets.json`. -/
  targets : GoMap TargetFileMeta

/-- A store in which nothing was put. -/
def Metadata.none : Metadata := ⟨.none, ∅⟩

/-- Bytes of a target by their length and SHA-512. -/
structure Matches (sha512 : Bytes → Bytes) (validMeta : TargetFileMeta) (bytes : Bytes) : Prop where
  length : bytes.length = validMeta.length
  hash : validMeta.hashes.lookup "sha512" = some (sha512 bytes)

/-- What the program is built with. -/
structure TufPlatform where
  /-- SHA-512. -/
  sha512 : Bytes → Bytes
  /-- `util.GenerateTargetFileMeta` without a hash algorithm. -/
  generateTargetFileMeta : Bytes → Except GoError TargetFileMeta
  /-- `util.TargetFileMetaEqual`. -/
  targetFileMetaEqual : TargetFileMeta → TargetFileMeta → Option GoError
  /-- Without an algorithm it is the SHA-512 that is generated, and compared with the length. -/
  equal_iff : ∀ validMeta bytes, (∃ localMeta, generateTargetFileMeta bytes = .ok localMeta ∧
    targetFileMetaEqual localMeta validMeta = none) ↔ Matches sha512 validMeta bytes
  /-- `embeddedRootRepo.ReadFile` of a target. -/
  embeddedFile : String → Except GoError Bytes
  /-- The store that `embeddedLocalStore` fills. -/
  embeddedLocalStore : Except GoError Metadata
  /-- `runtime.GOOS`. -/
  goos : String

/-- The components that `newEmbeddedImpl` and `newFileImpl` choose. -/
structure TargetImpl where
  /-- Targets are read from the program and not from the cache directory. -/
  embedded : Bool
  /-- `noCache()`: targets are written to memory and not to the cache directory. -/
  noCache : Bool
  deriving DecidableEq, Repr

/-- The state of a client. -/
structure Store where
  /-- The local store. -/
  localMeta : Metadata
  /-- The map of a `memoryCache`. -/
  memory : String → Option Bytes
  /-- The files of the targets directory. -/
  disk : String → Option Bytes

/-- `bytes.ReplaceAll(b, "\r\n", "\n")`. -/
def replaceLineEnds : Bytes → Bytes
  | 13 :: 10 :: rest => 10 :: replaceLineEnds rest
  | first :: rest => first :: replaceLineEnds rest
  | [] => []

/-- `e.Get(p)`. -/
def embeddedGet (p : TufPlatform) (name : String) : Except GoError Bytes := do
  let b ← p.embeddedFile name
  if p.goos = "windows" then .ok (replaceLineEnds b) else .ok b

/-- `f.Get(p)`. -/
def fileGet (store : Store) (name : String) : Except GoError Bytes :=
  match store.disk name with
  | some b => .ok b
  | none => .error ⟨"open " ++ name ++ ": no such file or directory"⟩

/-- `t.targets.Get(name)`. -/
def TargetImpl.get (p : TufPlatform) (impl : TargetImpl) (store : Store) (name : String) :
    Except GoError Bytes :=
  if impl.embedded then embeddedGet p name else fileGet store name

/-- A write that fails. -/
inductive WriteFault where
  /-- The file is as it was. -/
  | untouched (err : GoError)
  /-- The file has something else. -/
  | torn (err : GoError) (left : Bytes)

/-- Errors of `client.Update`. -/
inductive UpdateError where
  | latestSnapshot
  /-- Another error. -/
  | other (err : GoError)

/-- What `client.Update` does to a store, with or without an error. -/
structure UpdateOutcome where
  /-- The metadata that the store trusts afterwards. -/
  localMeta : Metadata
  /-- The names of the targets that are returned, in the order of the loop. -/
  targetFiles : List String
  err : Option UpdateError := none

/-- What the library, the remote and the disk do in one run; `none` is no failure. -/
structure TufCalls (p : TufPlatform) where
  /-- Failure of `os.Stat` of the store, if it is not that the store is absent. -/
  stat : Option GoError := none
  /-- Failure to open the store, and whether it is there afterwards. -/
  openStore : Option (GoError × Bool) := none
  /-- Failure of `remoteFromMirror`. -/
  remote : Option GoError := none
  /-- Failure of `GetMeta` of the store. -/
  getMeta : Option GoError := none
  /-- Failure of `getRoot`. -/
  getRoot : Option GoError := none
  /-- Failure of `InitLocal`. -/
  initLocal : Option GoError := none
  /-- The time. -/
  now : Int := 0
  /-- `t.client.Update()` of a store with the metadata. -/
  update : Metadata → UpdateOutcome
  /-- The report on the remote that is put into an error. -/
  status : Except GoError String := .ok ""
  /-- What `c.Download` writes for a target of the metadata. -/
  download : Metadata → String → Except GoError Bytes
  /-- Only a listed target is downloaded, and it is checked by all its hashes. -/
  download_checked : ∀ metadata name bytes, download metadata name = .ok bytes →
    ∃ validMeta, metadata.targets.lookup name = some validMeta ∧
      ("sha512" ∈ validMeta.hashes → Matches p.sha512 validMeta bytes)
  /-- Failure of the write of a target. -/
  write : String → Option WriteFault := fun _ => none
  /-- Failure to write `remote.json`. -/
  storeRemote : Option GoError := none

section

variable {p : TufPlatform} (calls : TufCalls p) (impl : TargetImpl)

/-- `downloadRemoteTarget`. -/
def downloadRemoteTarget (metadata : Metadata) (name : String) : Except GoError Bytes :=
  (calls.download metadata name).mapError fun err => err.wrap "downloading target"

/-- `t.targets.Set(name, b)`: a `memoryCache` or a `diskCache`. -/
def TargetImpl.set (name : String) (b : Bytes) : Proc Store Unit := fun store =>
  if impl.noCache then (.ok (), { store with memory := Function.update store.memory name (some b) })
  else match calls.write name with
    | none => (.ok (), { store with disk := Function.update store.disk name (some b) })
    | some (.untouched err) => (.error err, store)
    | some (.torn err left) =>
      (.error err, { store with disk := Function.update store.disk name (some left) })

/-- One round of the loop over the targets that `Update` has returned. -/
def storeTarget (name : String) : Proc Store Unit := fun store =>
  match downloadRemoteTarget calls store.localMeta name with
  | .error err => (.error err, store)
  | .ok b => impl.set calls name b store

/-- The error of an update that failed. -/
def updateError (err : GoError) : GoError :=
  match calls.status with
  | .error innerErr => innerErr
  | .ok status =>
    ⟨"error updating to TUF remote mirror: " ++ err.message ++ "\nremote status:" ++ status⟩

/-- `t.updateMetadataAndDownloadTargets()`. -/
def updateMetadataAndDownloadTargets : Proc Store Unit := fun store =>
  let outcome := calls.update store.localMeta
  let store := { store with localMeta := outcome.localMeta }
  match outcome.err with
  | some (.other err) => (.error (updateError calls err), store)
  | _ => outcome.targetFiles.forM (storeTarget calls impl) store

end

/-- `TUF`: a client with its state. -/
structure TUF where
  /-- `t.targets`. -/
  targets : TargetImpl
  /-- `t.mirror`. -/
  mirror : String
  /-- The state of the client. -/
  store : Store

/-- `t.GetTarget(name)`. -/
def TUF.getTarget (p : TufPlatform) (t : TUF) (name : String) : Except GoError Bytes :=
  match t.store.localMeta.targets.lookup name with
  | none =>
    .error ((⟨"unknown target file: " ++ name⟩ : GoError).wrap
      "error verifying local metadata; local cache may be corrupt")
  | some validMeta => do
    let targetBytes ← t.targets.get p t.store name
    let localMeta ← p.generateTargetFileMeta targetBytes
    match p.targetFileMetaEqual localMeta validMeta with
    | some err => .error err
    | none => .ok targetBytes

/-- The cache directory. -/
structure Cache where
  /-- The store `tuf.db`, if it is there. -/
  db : Option Metadata
  /-- The files of the targets directory. -/
  targets : String → Option Bytes
  /-- The mirror in `remote.json`, if it can be read. -/
  remote : Option String

/-- `isExpiredTimestamp`: what cannot be read has expired. -/
def isExpiredTimestamp (now : Int) (timestamp : Except GoError Int) : Bool :=
  match timestamp with
  | .error _ => true
  | .ok expiration => decide (expiration - now ≤ 0)

/-- There is a timestamp and it has not expired. -/
def isFresh (now : Int) (trustedMeta : Metadata) : Bool :=
  match trustedMeta.timestamp with
  | some trustedTimestamp => !isExpiredTimestamp now trustedTimestamp
  | none => false

section

variable {p : TufPlatform} (calls : TufCalls p) (noCache : Bool)

/-- The first failure between opening the store and looking at its timestamp. -/
def prepareError (rootGiven : Bool) : Option GoError :=
  calls.remote <|> wrap calls.getMeta "getting trusted meta" <|>
    (if rootGiven then none else wrap calls.getRoot "getting trusted root") <|>
    wrap calls.initLocal "unable to initialize client, local cache may be corrupt"

/-- The store that `initializeTUF` opens, and the cache directory afterwards. -/
def openLocal (embed : Bool) (cache : Cache) : Except GoError Metadata × Cache :=
  if embed then (p.embeddedLocalStore, cache)
  else
    let created := { cache with db := some (cache.db.getD .none) }
    match calls.openStore with
    | some (err, there) =>
      (.error (err.wrap "creating cached local store"), if there then created else cache)
    | none => (.ok (cache.db.getD .none), created)

/-- The cache directory after a client has run. -/
def Cache.keep (cache : Cache) (embed : Bool) (store : Store) : Cache :=
  { cache with
    db := if embed then cache.db else some store.localMeta
    targets := store.disk }

/-- `initializeTUF`. -/
def initializeTUF (embed : Bool) (mirror : String) (rootGiven forceUpdate : Bool) (cache : Cache) :
    Except GoError TUF × Cache :=
  match openLocal calls embed cache with
  | (.error err, cache) => (.error err, cache)
  | (.ok trustedMeta, cache) =>
    match prepareError calls rootGiven with
    | some err => (.error err, cache)
    | none =>
      let t : TUF := ⟨⟨embed, noCache⟩, mirror, ⟨trustedMeta, fun _ => none, cache.targets⟩⟩
      if isFresh calls.now trustedMeta && !forceUpdate then (.ok t, cache)
      else
        match updateMetadataAndDownloadTargets calls t.targets t.store with
        | (.error err, store) =>
          (.error (err.wrap "updating local metadata and targets"), cache.keep embed store)
        | (.ok (), store) => (.ok { t with store }, cache.keep embed store)

/-- `DefaultRemoteRoot`. -/
def defaultRemoteRoot : String := "sigstore-tuf-root"

/-- `NewFromEnv`: the embedded store is used where there is no other. -/
def newFromEnv (cache : Cache) : Except GoError TUF × Cache :=
  match calls.stat with
  | some err => (.error err, cache)
  | none =>
    initializeTUF calls noCache cache.db.isNone (cache.remote.getD defaultRemoteRoot) false false
      cache

/-- `Initialize`. -/
def initializeFrom (mirror : String) (rootGiven : Bool) (cache : Cache) : Option GoError × Cache :=
  match initializeTUF calls noCache false mirror rootGiven true cache with
  | (.error err, cache) => (some err, cache)
  | (.ok _, cache) =>
    match calls.storeRemote with
    | some err => (some (err.wrap "storing remote"), cache)
    | none => (none, { cache with remote := some mirror })

end

/-- A run of the program that opens the cache. -/
inductive TufRun (p : TufPlatform) where
  /-- `cosign initialize`. -/
  | initializeFrom (calls : TufCalls p) (mirror : String) (rootGiven : Bool)
  /-- A command that needs a client. -/
  | newFromEnv (calls : TufCalls p)

/-- The cache directory after a run. -/
def TufRun.run {p : TufPlatform} (cache : Cache) : TufRun p → Cache
  | .initializeFrom calls mirror rootGiven =>
    (Tuf.initializeFrom calls false mirror rootGiven cache).2
  | .newFromEnv calls => (Tuf.newFromEnv calls false cache).2

/-- The cache directory after one run after another. -/
def TufRun.runAll {p : TufPlatform} (cache : Cache) (runs : List (TufRun p)) : Cache :=
  runs.foldl TufRun.run cache

end Cosign.Tuf
