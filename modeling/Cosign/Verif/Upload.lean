import Mathlib.Data.List.Forall2
import Cosign.Remote.Upload

/-!
# What an upload leaves in the repository

Every round of the loop of `UploadFiles` leaves the image of its file in the repository and keeps
those of the rounds before (`uploadLoop_spec`). The index of several files lists those with a
platform and no others, so all files are reachable at the end exactly if there is one file or all
have a platform (`uploaded_reachable_iff`).
-/
namespace Cosign.Verif

open Cosign.Go Cosign.Encoding Cosign.Remote Cosign.Spec
open Cosign.Oci (Hash Image StoredLayer Descriptor)

section

variable (p : UploadPlatform) (getMt : Bytes → String)

/-- The image that a file is uploaded as. -/
def fileImage (b : Bytes) : Image :=
  ⟨.ok [(⟨getMt b, p.blobDigest b, ∅⟩,
    .ok ⟨.ok (p.blobDigest b), .ok (getMt b), .ok b, .ok b⟩)]⟩

/-- The manifest of the image. -/
def fileManifest (b : Bytes) : Manifest := .image [⟨getMt b, p.blobDigest b, ∅⟩]

/-- The manifest is that of the file, and the repository has its content. -/
def HoldsFile (contents : RepositoryContents) (f : File) (manifest : Manifest) : Prop :=
  ∃ b, f.contents = .ok b ∧ manifest = fileManifest p getMt b ∧
    contents.blobs (p.blobDigest b) = some b

/-- The manifest with a digest is the image of the only file, or an index with one entry for each
file, in order, that has the platform of the file and leads to its image. -/
def AllReachable (contents : RepositoryContents) (files : List File) (digest : Hash) : Prop :=
  ∃ manifest, contents.manifests digest = some manifest ∧
    ((∃ f, files = [f] ∧ HoldsFile p getMt contents f manifest) ∨
      (1 < files.length ∧ ∃ entries, manifest = .index entries ∧
        List.Forall₂ (fun (f : File) (entry : IndexEntry) => entry.platform = f.platform ∧
          ∃ child, contents.manifests entry.digest = some child ∧
            HoldsFile p getMt contents f child) files entries))

/-- The contents of the files that can be read. -/
def readable (files : List File) : List Bytes := files.filterMap fun f => f.contents.toOption

/-- What the loop appends to the index for a file. -/
def addenda (f : File) : List IndexAddendum :=
  match f.contents, f.platform with
  | .ok b, some platform => [⟨fileImage p getMt b, some platform⟩]
  | _, _ => []

/-- The entry of the index for a file. -/
def entries (f : File) : List IndexEntry :=
  match f.contents, f.platform with
  | .ok b, some platform =>
    [⟨ociManifestSchema1, p.manifestDigest (fileManifest p getMt b), some platform⟩]
  | _, _ => []

/-- The index of some files. -/
def fileIndex (files : List File) : Manifest := .index (files.flatMap (entries p getMt))

/-- What the upload puts into the repository does not collide with itself, nor with the blobs that
are there. -/
structure NoCollisions (contents : RepositoryContents) (files : List File) : Prop where
  /-- The blobs that are there under the digests of the files are the files. -/
  held : Agrees p.blobDigest (readable files) contents.blobs
  /-- The files have different digests. -/
  blobs : Collisionless p.blobDigest (readable files)
  /-- The manifests have different digests. -/
  manifests : Collisionless p.manifestDigest
    (fileIndex p getMt files :: (readable files).map (fileManifest p getMt))

/-- The repository has the image of a file and its content. -/
def StoredFile (contents : RepositoryContents) (f : File) : Prop :=
  ∃ b, f.contents = .ok b ∧ Holds p.blobDigest contents.blobs b ∧
    Holds p.manifestDigest contents.manifests (fileManifest p getMt b)

end

variable {p : UploadPlatform} {faults : UploadFaults} {ref : ManifestReference}
  {getMt : Bytes → String} {files : List File}

/-! ## One file -/

/-- A manifest that was put: it is under its digest, and the reference points to it. -/
theorem commitManifest_ok {contents after : RepositoryContents} {manifest : Manifest}
    (succeeds : commitManifest p contents ref manifest = (after, none)) :
    after.blobs = contents.blobs ∧
    after.manifests = put p.manifestDigest contents.manifests manifest ∧
    after.resolve ref = some (p.manifestDigest manifest) := by
  unfold commitManifest at succeeds
  cases ref with
  | tag identifier =>
    cases succeeds
    exact ⟨rfl, rfl, Function.update_self ..⟩
  | digest hash =>
    dsimp only at succeeds
    split at succeeds
    · rename_i own
      cases succeeds
      refine ⟨rfl, rfl, ?_⟩
      have held : put p.manifestDigest contents.manifests manifest (p.manifestDigest manifest) =
        some manifest := holds_put
      subst own
      show ((put p.manifestDigest contents.manifests manifest _).map _) = _
      rw [held]
      rfl
    · cases succeeds

theorem write_ok {failure : Option GoError} {contents after : RepositoryContents} {b : Bytes}
    (succeeds : write p failure contents ref (fileImage p getMt b) = (after, none)) :
    after.blobs = putNew p.blobDigest contents.blobs b ∧
    after.manifests = put p.manifestDigest contents.manifests (fileManifest p getMt b) ∧
    after.resolve ref = some (p.manifestDigest (fileManifest p getMt b)) := by
  unfold write at succeeds
  cases failure with
  | some err => cases succeeds
  | none =>
    -- the image has one layer, so one blob is put before the manifest
    have published : (fileImage p getMt b).published =
      .ok [⟨⟨getMt b, p.blobDigest b, ∅⟩, b⟩] := rfl
    rw [published] at succeeds
    exact commitManifest_ok succeeds

theorem uploadFile_ok {state next : UploadState} {f : File}
    (succeeds : uploadFile p faults ref getMt state f = .ok (next, none)) :
    ∃ b, f.contents = .ok b ∧
      next.contents.blobs = putNew p.blobDigest state.contents.blobs b ∧
      next.contents.manifests =
        put p.manifestDigest state.contents.manifests (fileManifest p getMt b) ∧
      next.contents.resolve ref = some (p.manifestDigest (fileManifest p getMt b)) ∧
      next.lastHash = p.manifestDigest (fileManifest p getMt b) ∧
      next.idx = state.idx ++ addenda p getMt f := by
  unfold uploadFile at succeeds
  cases given : f.contents with
  | error err =>
    rw [given] at succeeds
    cases succeeds
  | ok b =>
    rw [given] at succeeds
    refine ⟨b, rfl, ?_⟩
    -- the image of a file can always be built
    have built : newFile p.sha256 b [.withLayerMediaType (getMt b)] =
      .ok (fileImage p getMt b) := rfl
    have digest : imageDigest p (fileImage p getMt b) =
      .ok (p.manifestDigest (fileManifest p getMt b)) := rfl
    dsimp only at succeeds
    rw [built] at succeeds
    simp only [bind, Except.bind, digest] at succeeds
    cases wrote : write p (faults.write f) state.contents ref (fileImage p getMt b) with
    | mk contents err =>
      rw [wrote] at succeeds
      cases err with
      | some err => cases succeeds
      | none =>
        cases succeeds
        have ⟨blobs, manifests, points⟩ := write_ok wrote
        refine ⟨blobs, manifests, points, rfl, ?_⟩
        unfold addenda
        rw [given]
        cases f.platform with
        | none => simp
        | some platform => simp

/-! ## The loop -/

/-- A file that is stored stays stored when another of the upload is written. -/
theorem StoredFile.next {start : RepositoryContents} {contents next : RepositoryContents}
    {f : File} {b : Bytes} (stored : StoredFile p getMt contents f) (inFiles : f ∈ files)
    (apart : NoCollisions p getMt start files) (listed : b ∈ readable files)
    (blobs : next.blobs = putNew p.blobDigest contents.blobs b)
    (manifests : next.manifests =
      put p.manifestDigest contents.manifests (fileManifest p getMt b)) :
    StoredFile p getMt next f := by
  have ⟨own, given, blob, manifest⟩ := stored
  have ownListed : own ∈ readable files :=
    List.mem_filterMap.mpr ⟨f, inFiles, by rw [given]; rfl⟩
  refine ⟨own, given, blobs ▸ blob.putNew, manifests ▸ manifest.put ?_⟩
  exact apart.manifests _ (List.mem_cons_of_mem _ (List.mem_map_of_mem ownListed)) _
    (List.mem_cons_of_mem _ (List.mem_map_of_mem listed))

/-- What the loop leaves if it succeeds: all its files are stored, and those that were, and the
index has what its files append. The reference points to the image of the last file. -/
theorem uploadLoop_ok {start : RepositoryContents} (apart : NoCollisions p getMt start files)
    {rest : List File} {state final : UploadState} (among : ∀ f ∈ rest, f ∈ files)
    (agrees : Agrees p.blobDigest (readable files) state.contents.blobs)
    (succeeds : uploadLoop p faults ref getMt state rest = .ok (final, none)) :
    (∀ f ∈ rest, StoredFile p getMt final.contents f) ∧
    (∀ f ∈ files, StoredFile p getMt state.contents f → StoredFile p getMt final.contents f) ∧
    final.idx = state.idx ++ rest.flatMap (addenda p getMt) ∧
    ∀ last ∈ rest.getLast?, ∃ b, last.contents = .ok b ∧
      final.lastHash = p.manifestDigest (fileManifest p getMt b) ∧
      final.contents.resolve ref = some final.lastHash := by
  induction rest generalizing state with
  | nil =>
    cases succeeds
    exact ⟨nofun, fun f _ stored => stored, by simp, nofun⟩
  | cons f rest ih =>
    unfold uploadLoop at succeeds
    have ⟨round, ran, goesOn⟩ := bind_eq_ok.mp succeeds
    obtain ⟨next, err⟩ := round
    cases err with
    | some err => cases goesOn
    | none =>
      have ⟨b, given, blobs, manifests, points, hash, idx⟩ := uploadFile_ok ran
      have inFiles : f ∈ files := among f List.mem_cons_self
      have listed : b ∈ readable files :=
        List.mem_filterMap.mpr ⟨f, inFiles, by rw [given]; rfl⟩
      have agreesNext : Agrees p.blobDigest (readable files) next.contents.blobs :=
        blobs ▸ agrees.putNew apart.blobs listed
      have stored : StoredFile p getMt next.contents f :=
        ⟨b, given, blobs ▸ holds_putNew agrees listed, manifests ▸ holds_put⟩
      have ⟨all, kept, appended, last⟩ :=
        ih (fun g later => among g (List.mem_cons_of_mem _ later)) agreesNext goesOn
      refine ⟨?_, ?_, ?_, ?_⟩
      · intro g inRest
        cases List.mem_cons.mp inRest with
        | inl same => exact same ▸ kept f inFiles stored
        | inr later => exact all g later
      · intro g inAll held
        exact kept g inAll (held.next inAll apart listed blobs manifests)
      · rw [appended, idx, List.flatMap_cons, List.append_assoc]
      · cases rest with
        | nil =>
          cases goesOn
          intro last only
          cases only
          exact ⟨b, given, hash, hash ▸ points⟩
        | cons second others => exact last

/-! ## The index -/

theorem indexManifest_addenda (files : List File) :
    indexManifest p (files.flatMap (addenda p getMt)) = .ok (fileIndex p getMt files) := by
  have listed : (files.flatMap (addenda p getMt)).mapM (IndexAddendum.entry p) =
      .ok (files.flatMap (entries p getMt)) := by
    induction files with
    | nil => rfl
    | cons f rest ih =>
      rw [List.flatMap_cons, List.flatMap_cons, List.mapM_append, ih]
      unfold addenda entries
      cases f.contents with
      | error err => rfl
      | ok b =>
        cases f.platform with
        | none => rfl
        | some platform => rfl
  unfold indexManifest
  rw [listed]
  rfl

theorem writeChildren_stored {contents : RepositoryContents} {files : List File}
    (stored : ∀ f ∈ files, StoredFile p getMt contents f) :
    writeChildren p contents (files.flatMap (addenda p getMt)) = (contents, none) := by
  induction files with
  | nil => rfl
  | cons f rest ih =>
    have later := ih fun g inRest => stored g (List.mem_cons_of_mem _ inRest)
    have ⟨b, given, _, manifest⟩ := stored f List.mem_cons_self
    rw [List.flatMap_cons, addenda, given]
    cases f.platform with
    | none => exact later
    | some platform =>
      have digest : imageDigest p (fileImage p getMt b) =
        .ok (p.manifestDigest (fileManifest p getMt b)) := rfl
      have there : (contents.manifests (p.manifestDigest (fileManifest p getMt b))).isSome := by
        rw [manifest]
        rfl
      dsimp only [List.singleton_append]
      rw [writeChildren, digest]
      dsimp only
      rw [if_pos there]
      exact later

/-- The entries of an index whose files all have platforms lead to the files. -/
theorem entries_reach {contents : RepositoryContents} {files : List File}
    (stored : ∀ f ∈ files, StoredFile p getMt contents f)
    (platforms : ∀ f ∈ files, f.platform.isSome) :
    List.Forall₂ (fun (f : File) (entry : IndexEntry) => entry.platform = f.platform ∧
      ∃ child, contents.manifests entry.digest = some child ∧ HoldsFile p getMt contents f child)
      files (files.flatMap (entries p getMt)) := by
  induction files with
  | nil => exact .nil
  | cons f rest ih =>
    have later := ih (fun g inRest => stored g (List.mem_cons_of_mem _ inRest))
      fun g inRest => platforms g (List.mem_cons_of_mem _ inRest)
    have ⟨b, given, blob, manifest⟩ := stored f List.mem_cons_self
    have ⟨platform, known⟩ := Option.isSome_iff_exists.mp (platforms f List.mem_cons_self)
    rw [List.flatMap_cons, entries, given, known]
    refine .cons ⟨known.symm, fileManifest p getMt b, manifest, b, given, rfl, blob⟩ later

/-- An index with one entry for each file has a platform for each. -/
theorem platforms_of_entries {files : List File}
    (many : files.length = (files.flatMap (entries p getMt)).length) :
    ∀ f ∈ files, f.platform.isSome := by
  have few (f : File) : (entries p getMt f).length ≤ 1 := by
    unfold entries
    split <;> simp
  have bound (files : List File) : (files.flatMap (entries p getMt)).length ≤ files.length := by
    induction files with
    | nil => simp
    | cons f rest ih =>
      have one := few f
      simp only [List.flatMap_cons, List.length_append, List.length_cons]
      omega
  induction files with
  | nil => nofun
  | cons f rest ih =>
    have one := few f
    have others := bound rest
    simp only [List.flatMap_cons, List.length_append, List.length_cons] at many
    intro g listed
    cases List.mem_cons.mp listed with
    | inr later => exact ih (by omega) g later
    | inl same =>
      have taken : (entries p getMt f).length = 1 := by omega
      rw [same]
      unfold entries at taken
      split at taken
      · rename_i known
        rw [known]
        rfl
      · cases taken

/-! ## The whole upload -/

section Whole

variable {contents after : RepositoryContents} {digest : Hash}

/-- The loop of an upload that succeeds, and what comes after it. -/
theorem uploadFiles_ok
    (succeeds : uploadFiles p faults ref getMt contents files = .ok (after, .ok digest)) :
    ∃ state, uploadLoop p faults ref getMt ⟨contents, ⟨"", ""⟩, []⟩ files = .ok (state, none) ∧
      (files.length ≤ 1 ∧ after = state.contents ∧ digest = state.lastHash ∨
        1 < files.length ∧
          writeIndex p faults.writeIndex state.contents ref state.idx = (after, none) ∧
          indexDigest p state.idx = .ok digest) := by
  unfold uploadFiles at succeeds
  have ⟨loop, ran, goesOn⟩ := bind_eq_ok.mp succeeds
  obtain ⟨state, err⟩ := loop
  cases err with
  | some err => cases goesOn
  | none =>
    refine ⟨state, ran, ?_⟩
    dsimp only at goesOn
    split at goesOn
    · rename_i several
      cases wrote : writeIndex p faults.writeIndex state.contents ref state.idx with
      | mk left err =>
        rw [wrote] at goesOn
        cases err with
        | some err => cases goesOn
        | none =>
          have parts := Prod.mk.inj (Except.ok.inj goesOn)
          rw [parts.1]
          exact .inr ⟨several, rfl, parts.2⟩
    · rename_i single
      have parts := Prod.mk.inj (Except.ok.inj goesOn)
      exact .inl ⟨Nat.not_lt.mp single, parts.1.symm, (Except.ok.inj parts.2).symm⟩

/-- The upload of one file leaves its image, to which the reference points. -/
theorem uploadFiles_one {f : File} (apart : NoCollisions p getMt contents [f])
    (succeeds : uploadFiles p faults ref getMt contents [f] = .ok (after, .ok digest)) :
    after.resolve ref = some digest ∧ AllReachable p getMt after [f] digest := by
  have ⟨state, ran, ends⟩ := uploadFiles_ok succeeds
  have ⟨stored, _, _, last⟩ := uploadLoop_ok apart (fun _ listed => listed) apart.held ran
  cases ends with
  | inr many => exact absurd many.1 (Nat.lt_irrefl 1)
  | inl one =>
    have ⟨_, sameContents, sameDigest⟩ := one
    subst sameContents sameDigest
    have ⟨b, given, hash, points⟩ := last f rfl
    have ⟨own, ownGiven, blob, manifest⟩ := stored f List.mem_cons_self
    cases given.symm.trans ownGiven
    refine ⟨points, fileManifest p getMt b, ?_, .inl ⟨f, rfl, b, given, rfl, blob⟩⟩
    rw [hash]
    exact manifest

/-- The upload of several files leaves the index of those with a platform, to which the reference
points, and the images of all. -/
theorem uploadFiles_many (several : 1 < files.length) (apart : NoCollisions p getMt contents files)
    (succeeds : uploadFiles p faults ref getMt contents files = .ok (after, .ok digest)) :
    after.resolve ref = some digest ∧
    after.manifests digest = some (fileIndex p getMt files) ∧
    ∀ f ∈ files, StoredFile p getMt after f := by
  have ⟨state, ran, ends⟩ := uploadFiles_ok succeeds
  have ⟨stored, _, idx, _⟩ := uploadLoop_ok apart (fun _ listed => listed) apart.held ran
  cases ends with
  | inl one => exact absurd several (Nat.not_lt.mpr one.1)
  | inr many =>
    have ⟨_, wrote, hashed⟩ := many
    rw [idx, List.nil_append] at wrote hashed
    unfold indexDigest at hashed
    rw [indexManifest_addenda] at hashed
    cases hashed
    unfold writeIndex at wrote
    rw [indexManifest_addenda, writeChildren_stored stored] at wrote
    cases fault : faults.writeIndex with
    | some err =>
      rw [fault] at wrote
      cases wrote
    | none =>
      rw [fault] at wrote
      have ⟨blobs, manifests, points⟩ := commitManifest_ok wrote
      refine ⟨points, ?_, ?_⟩
      · rw [manifests]
        exact holds_put
      · intro f listed
        have ⟨b, given, blob, manifest⟩ := stored f listed
        have inFiles : b ∈ readable files :=
          List.mem_filterMap.mpr ⟨f, listed, by rw [given]; rfl⟩
        refine ⟨b, given, blobs ▸ blob, manifests ▸ manifest.put ?_⟩
        exact apart.manifests _ (List.mem_cons_of_mem _ (List.mem_map_of_mem inFiles)) _
          List.mem_cons_self

end Whole

/-- **Uploaded files.** After an upload of some files that succeeds, the reference points to the
manifest with the digest that is returned. All files are reachable from it, the only one as its
own image and several by an index with one entry for each, if and only if there is one file or all
files have a platform. -/
theorem uploaded_reachable_iff (p : UploadPlatform) (faults : UploadFaults)
    (ref : ManifestReference) (getMt : Bytes → String) (contents after : RepositoryContents)
    (files : List File) (digest : Hash) (nonempty : files ≠ [])
    (apart : NoCollisions p getMt contents files)
    (succeeds : uploadFiles p faults ref getMt contents files = .ok (after, .ok digest)) :
    after.resolve ref = some digest ∧
    (AllReachable p getMt after files digest ↔
      files.length = 1 ∨ ∀ f ∈ files, f.platform.isSome) := by
  by_cases several : 1 < files.length
  · have ⟨points, index, stored⟩ := uploadFiles_many several apart succeeds
    refine ⟨points, ?_, ?_⟩
    · intro reachable
      have ⟨manifest, found, which⟩ := reachable
      rw [index] at found
      cases found
      cases which with
      | inl one =>
        have ⟨f, only, _⟩ := one
        rw [only] at several
        exact absurd several (Nat.lt_irrefl 1)
      | inr many =>
        have ⟨_, listed, same, reach⟩ := many
        cases same
        exact .inr (platforms_of_entries reach.length_eq)
    · intro either
      cases either with
      | inl one => omega
      | inr platforms =>
        exact ⟨_, index, .inr ⟨several, _, rfl, entries_reach stored platforms⟩⟩
  · have single : files.length = 1 := by
      have positive := List.length_pos_iff.mpr nonempty
      omega
    have ⟨f, only⟩ := List.length_eq_one_iff.mp single
    subst only
    have ⟨points, reachable⟩ := uploadFiles_one apart succeeds
    exact ⟨points, fun _ => .inl single, fun _ => reachable⟩

/-- A platform whose digests are the bytes themselves. -/
def plainPlatform : UploadPlatform where
  sha256 := id
  rawManifest
    | .image layers => 1 :: layers.flatMap fun layer => utf8Bytes layer.digest.hex
    | .index manifests => 2 :: manifests.flatMap fun entry => utf8Bytes entry.digest.hex

/-- A repository with nothing in it. -/
def emptyRepository : RepositoryContents := ⟨fun _ => none, fun _ => none, fun _ => none⟩

/-- An upload to a tag of an empty repository in which no write fails. -/
def uploadSample (files : List File) : Call (RepositoryContents × Except GoError Hash) :=
  uploadFiles plainPlatform ⟨fun _ => none, none⟩ (.tag "v1") (fun _ => "text/plain")
    emptyRepository files

/-- A file with a platform. -/
def linuxFile : File := ⟨.ok [1], some ⟨"linux", "amd64"⟩, "tool-linux"⟩

/-- Another file, for a platform or for none. -/
def otherFile (platform : Option V1Platform) : File := ⟨.ok [2], platform, "tool-other"⟩

theorem noCollisions_sample :
    NoCollisions plainPlatform (fun _ => "text/plain") emptyRepository
      [linuxFile, otherFile (some ⟨"darwin", "arm64"⟩)] where
  held := nofun
  blobs := by
    unfold Collisionless
    decide +kernel
  manifests := by
    intro left inLeft right inRight same
    simp only [readable, linuxFile, otherFile, Except.toOption, List.filterMap_cons,
      List.filterMap_nil, List.map_cons, List.map_nil, List.mem_cons, List.not_mem_nil,
      or_false] at inLeft inRight
    rcases inLeft with rfl | rfl | rfl <;> rcases inRight with rfl | rfl | rfl <;>
      first | rfl | exact absurd same (by decide +kernel)

/-- Two files with platforms are reachable from the index. -/
theorem uploaded_reachable_iff_two : ∃ after digest,
    uploadSample [linuxFile, otherFile (some ⟨"darwin", "arm64"⟩)] = .ok (after, .ok digest) ∧
    after.resolve (.tag "v1") = some digest ∧
    AllReachable plainPlatform (fun _ => "text/plain") after
      [linuxFile, otherFile (some ⟨"darwin", "arm64"⟩)] digest := by
  have ⟨after, digest, ran⟩ : ∃ after digest,
      uploadSample [linuxFile, otherFile (some ⟨"darwin", "arm64"⟩)] =
        .ok (after, .ok digest) := ⟨_, _, rfl⟩
  have both := uploaded_reachable_iff plainPlatform _ _ _ _ after _ digest (List.cons_ne_nil _ _)
    noCollisions_sample ran
  exact ⟨after, digest, ran, both.1, both.2.mpr (.inr (by decide))⟩

/-- Of two files, the one without a platform is not in the index that is written. -/
theorem file_without_platform_lost : ∃ after digest,
    uploadSample [linuxFile, otherFile none] = .ok (after, .ok digest) ∧
    after.resolve (.tag "v1") = some digest ∧
    after.manifests digest = some (.index [⟨ociManifestSchema1,
      plainPlatform.manifestDigest (fileManifest plainPlatform (fun _ => "text/plain") [1]),
      some ⟨"linux", "amd64"⟩⟩]) ∧
    ¬AllReachable plainPlatform (fun _ => "text/plain") after [linuxFile, otherFile none]
      digest := by
  have ⟨after, digest, ran, points, index⟩ : ∃ after digest,
      uploadSample [linuxFile, otherFile none] = .ok (after, .ok digest) ∧
      after.resolve (.tag "v1") = some digest ∧
      after.manifests digest = some (.index [⟨ociManifestSchema1,
        plainPlatform.manifestDigest (fileManifest plainPlatform (fun _ => "text/plain") [1]),
        some ⟨"linux", "amd64"⟩⟩]) := ⟨_, _, rfl, rfl, rfl⟩
  refine ⟨after, digest, ran, points, index, ?_⟩
  intro ⟨manifest, found, which⟩
  rw [index] at found
  cases found
  cases which with
  | inl one =>
    have ⟨_, only, _⟩ := one
    cases only
  | inr many =>
    have ⟨_, _, same, reach⟩ := many
    cases same
    cases reach with
    | cons _ rest => cases rest

end Cosign.Verif
