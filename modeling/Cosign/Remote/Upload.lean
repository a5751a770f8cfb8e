import Cosign.Oci.Static
import Cosign.Spec.Addressed

/-!
# Uploading files

`UploadFiles` writes every file as an image of one layer to one reference, each over the one before,
and collects the images of the files that have a platform into an index, which is written last if
there are several files.

A repository keeps blobs and manifests under their digests, and the digest of each tag. The bytes of
a manifest are a parameter; the configuration of an image is determined by its layer and is left
out. Every write may fail instead, and then changes nothing.
-/
namespace Cosign.Remote

open Cosign.Go Cosign.Encoding Cosign.Oci

/-- `v1.Platform`, with the fields that a flag can set. -/
structure V1Platform where
  os : String
  architecture : String
  deriving DecidableEq, Repr

/-- The `File` interface, by what its methods return. -/
structure File where
  contents : Except GoError Bytes
  platform : Option V1Platform
  path : String

/-- A manifest in the list of an index. -/
structure IndexEntry where
  /-- Media type of the manifest. -/
  mediaType : String
  /-- Digest of the manifest. -/
  digest : Hash
  /-- Platform of the manifest. -/
  platform : Option V1Platform
  deriving DecidableEq, Repr

/-- A manifest. -/
inductive Manifest where
  | image (layers : List Descriptor)
  | index (manifests : List IndexEntry)

/-- The functions that make digests. -/
structure UploadPlatform where
  /-- SHA-256. -/
  sha256 : Bytes → Bytes
  rawManifest : Manifest → Bytes

/-- The digest of a manifest. -/
def UploadPlatform.manifestDigest (p : UploadPlatform) (manifest : Manifest) : Hash :=
  sha256Hash p.sha256 (p.rawManifest manifest)

/-- The digest of a blob. -/
def UploadPlatform.blobDigest (p : UploadPlatform) : Bytes → Hash := sha256Hash p.sha256

/-- What a repository holds. -/
structure RepositoryContents where
  /-- Blobs by their digests. -/
  blobs : Hash → Option Bytes
  /-- Manifests by their digests. -/
  manifests : Hash → Option Manifest
  /-- The digests that tags point to. -/
  tags : String → Option Hash

/-- `name.Reference` in the repository. -/
inductive ManifestReference where
  | tag (identifier : String)
  | digest (hash : Hash)

/-- The digest of the manifest that a reference points to. -/
def RepositoryContents.resolve (contents : RepositoryContents) : ManifestReference → Option Hash
  | .tag identifier => contents.tags identifier
  | .digest hash => (contents.manifests hash).map fun _ => hash

/-- Put a manifest under a reference; a digest must be its own. -/
def commitManifest (p : UploadPlatform) (contents : RepositoryContents) (ref : ManifestReference)
    (manifest : Manifest) : RepositoryContents × Option GoError :=
  let manifests := Spec.put p.manifestDigest contents.manifests manifest
  match ref with
  | .tag identifier =>
    ({ contents with
      manifests
      tags := Function.update contents.tags identifier (some (p.manifestDigest manifest)) }, none)
  | .digest hash =>
    if hash = p.manifestDigest manifest then ({ contents with manifests }, none)
    else (contents, some ⟨"DIGEST_INVALID: provided digest did not match uploaded content"⟩)

/-- `img.Digest()`. -/
def imageDigest (p : UploadPlatform) (image : Image) : Except GoError Hash :=
  image.manifest.map fun entries => p.manifestDigest (.image (entries.map Prod.fst))

/-- `remote.Write`. -/
def write (p : UploadPlatform) (failure : Option GoError) (contents : RepositoryContents)
    (ref : ManifestReference) (image : Image) : RepositoryContents × Option GoError :=
  match failure with
  | some err => (contents, some err)
  | none =>
    match image.published with
    | .error err => (contents, some err)
    | .ok layers =>
      let blobs := layers.foldl (fun blobs layer =>
        Spec.putNew p.blobDigest blobs layer.content) contents.blobs
      commitManifest p { contents with blobs } ref (.image (layers.map StoredLayer.descriptor))

/-- `types.OCIManifestSchema1`. -/
def ociManifestSchema1 : String := "application/vnd.oci.image.manifest.v1+json"

/-- `mutate.IndexAddendum`. -/
structure IndexAddendum where
  add : Image
  /-- `Descriptor.Platform`. -/
  platform : Option V1Platform

/-- `v1.ImageIndex`, by what was appended to `empty.Index`. -/
abbrev ImageIndex : Type := List IndexAddendum

/-- The entry of an index for what was appended. -/
def IndexAddendum.entry (p : UploadPlatform) (addendum : IndexAddendum) :
    Except GoError IndexEntry := do
  let digest ← imageDigest p addendum.add
  .ok ⟨ociManifestSchema1, digest, addendum.platform⟩

/-- The manifest of an index. -/
def indexManifest (p : UploadPlatform) (idx : ImageIndex) : Except GoError Manifest := do
  let entries ← idx.mapM (IndexAddendum.entry p)
  .ok (.index entries)

/-- `idx.Digest()`. -/
def indexDigest (p : UploadPlatform) (idx : ImageIndex) : Except GoError Hash :=
  (indexManifest p idx).map p.manifestDigest

/-- Write the images of an index that the repository does not have. -/
def writeChildren (p : UploadPlatform) :
    RepositoryContents → ImageIndex → RepositoryContents × Option GoError
  | contents, [] => (contents, none)
  | contents, addendum :: rest =>
    match imageDigest p addendum.add with
    | .error err => (contents, some err)
    | .ok digest =>
      if (contents.manifests digest).isSome then writeChildren p contents rest
      else
        match write p none contents (.digest digest) addendum.add with
        | (contents, some err) => (contents, some err)
        | (contents, none) => writeChildren p contents rest

/-- `remote.WriteIndex`. -/
def writeIndex (p : UploadPlatform) (failure : Option GoError) (contents : RepositoryContents)
    (ref : ManifestReference) (idx : ImageIndex) : RepositoryContents × Option GoError :=
  match failure with
  | some err => (contents, some err)
  | none =>
    match indexManifest p idx with
    | .error err => (contents, some err)
    | .ok manifest =>
      match writeChildren p contents idx with
      | (contents, some err) => (contents, some err)
      | (contents, none) => commitManifest p contents ref manifest

/-- `static.NewFile`. -/
def newFile (sha256 : Bytes → Bytes) (payload : Bytes) (opts : List StaticOption) : Call Image := do
  let o ← makeStaticOptions opts
  .ok (Image.empty.append [⟨StaticLayer.layer sha256 ⟨payload, "", o⟩, ∅⟩])

/-- The failures of the writes of one upload. -/
structure UploadFaults where
  /-- Failure of `remote.Write` of a file. -/
  write : File → Option GoError
  /-- Failure of `remote.WriteIndex`. -/
  writeIndex : Option GoError

/-- The variables of `UploadFiles` and the repository. -/
structure UploadState where
  /-- What the repository holds. -/
  contents : RepositoryContents
  lastHash : Hash
  idx : ImageIndex

section

variable (p : UploadPlatform) (faults : UploadFaults) (ref : ManifestReference)
  (getMt : Bytes → String)

/-- One round of the loop over the files; an error ends the call. -/
def uploadFile (state : UploadState) (f : File) : Call (UploadState × Option GoError) :=
  match f.contents with
  | .error err => .ok (state, some err)
  | .ok b => do
    let img ← newFile p.sha256 b [.withLayerMediaType (getMt b)]
    match imageDigest p img with
    | .error err => .ok (state, some err)
    | .ok lastHash =>
      match write p (faults.write f) state.contents ref img with
      | (contents, some err) => .ok ({ state with contents, lastHash }, some err)
      | (contents, none) =>
        let idx :=
          if f.platform.isSome then state.idx ++ [⟨img, f.platform⟩] else state.idx
        .ok (⟨contents, lastHash, idx⟩, none)

/-- The loop over the files. -/
def uploadLoop : UploadState → List File → Call (UploadState × Option GoError)
  | state, [] => .ok (state, none)
  | state, f :: rest => do
    match ← uploadFile p faults ref getMt state f with
    | (state, some err) => .ok (state, some err)
    | (state, none) => uploadLoop state rest

/-- `UploadFiles`, with the repository that it leaves. -/
def uploadFiles (contents : RepositoryContents) (files : List File) :
    Call (RepositoryContents × Except GoError Hash) := do
  match ← uploadLoop p faults ref getMt ⟨contents, ⟨"", ""⟩, []⟩ files with
  | (state, some err) => .ok (state.contents, .error err)
  | (state, none) =>
    if 1 < files.length then
      match writeIndex p faults.writeIndex state.contents ref state.idx with
      | (contents, some err) => .ok (contents, .error err)
      | (contents, none) => .ok (contents, indexDigest p state.idx)
    else .ok (state.contents, .ok state.lastHash)

end

end Cosign.Remote
