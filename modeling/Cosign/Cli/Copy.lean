import Cosign.Remote.Tree

/-!
# The copy command

`CopyCmd` copies an entity, everything below it and their signatures, attestations and SBOMs to
another repository, and moves the destination tag last. The source does not change; each call may
fail instead of being answered (`Responses`). Writes are not atomic, unlike those of a list in
`Cosign.Remote.Registry`: one that fails may have uploaded manifests or have moved its reference.
-/
namespace Cosign.Cli

open Cosign.Go Cosign.Oci Cosign.Remote
open Cosign.Verify (Repository)

/-- `name.Reference`. -/
inductive Reference where
  /-- A `name.Tag`. -/
  | tag (tag : Tag)
  /-- A `name.Digest`. -/
  | digest (repository : Repository) (digest : Digest)

namespace Reference

/-- `ref.Context()`. -/
def context : Reference → Repository
  | .tag named => named.repository
  | .digest repository _ => repository

/-- `ref.Identifier()`. -/
def identifier : Reference → String
  | .tag named => named.identifier
  | .digest _ named => named.hash.string

/-- What a registry sees of a reference: it does not tell a digest from a tag with its text. -/
def address (ref : Reference) : Tag := ⟨ref.context, ref.identifier⟩

/-- `ref.Name()`. -/
def name : Reference → String
  | .tag named =>
    named.repository.registry ++ "/" ++ named.repository.repository ++ ":" ++ named.identifier
  | .digest repository named =>
    repository.registry ++ "/" ++ repository.repository ++ "@" ++ named.hash.string

end Reference

/-- A source registry that does not change. -/
structure Source where
  /-- What is found under a reference. -/
  get : Tag → Option EntityTree
  /-- What is found under a digest has that digest. -/
  addressed : ∀ repository (digest : Digest) tree,
    get ⟨repository, digest.hash.string⟩ = some tree → tree.digest = digest
  /-- An entity is found under its digest, and so is everything below it. -/
  complete : ∀ address tree, get address = some tree → ∀ part ∈ tree :: tree.parts,
    get ⟨address.repository, part.digest.hash.string⟩ = some part

/-- A write that fails. -/
structure WriteFailure where
  err : GoError
  /-- Manifests that were uploaded before. -/
  uploaded : List Digest
  /-- Whether the reference was moved all the same. -/
  applied : Bool

/-- How one call fails, by what kind of call it is; `none` is no failure. -/
structure Responses where
  /-- Failure of `remote.Get`. -/
  get : Option CallError := none
  /-- Failure of `remote.Head`. -/
  head : Option CallError := none
  /-- Failure of a call that reads a manifest that was found: `Image` or `ImageIndex` of a
  descriptor, `IndexManifest`, `SignedImage` and `SignedImageIndex` of an index. -/
  read : Option GoError := none
  /-- Failure of `remote.Write` or `remote.WriteIndex`. -/
  write : Option WriteFailure := none

/-- What a destination registry holds. -/
structure Manifests where
  /-- Digest of the manifest under a reference. -/
  get : Tag → Option Digest
  /-- What is held under a digest has that digest. -/
  addressed : ∀ repository (digest : Digest) found,
    get ⟨repository, digest.hash.string⟩ = some found → found = digest

/-- A reference takes a manifest: one that reads as a digest takes no other. The name of a tag has
no colon. -/
def fits (address : Tag) (digest : Digest) : Bool :=
  ':' ∉ address.identifier.toList || address.identifier == digest.hash.string

/-- The text of a digest has a colon. -/
theorem colon_mem_digest (digest : Digest) : ':' ∈ digest.hash.string.toList := by
  simp [Hash.string, String.toList_append]

/-- The text of a digest determines it. -/
theorem digest_string_injective {left right : Digest}
    (same : left.hash.string = right.hash.string) : left = right := by
  obtain ⟨⟨algorithm, hex⟩, sha256, sized⟩ := left
  obtain ⟨⟨algorithm', hex'⟩, sha256', sized'⟩ := right
  simp only at sha256 sha256'
  subst sha256 sha256'
  have texts := congrArg String.toList same
  simp only [Hash.string, String.toList_append, List.append_assoc, List.append_cancel_left_eq,
    String.toList_inj] at texts
  subst texts
  rfl

/-- A registry with a manifest put under a reference that takes it. -/
def Manifests.put (held : Manifests) (address : Tag) (digest : Digest)
    (taken : fits address digest = true) : Manifests where
  get := Function.update held.get address (some digest)
  addressed repository other found holds := by
    by_cases same : (⟨repository, other.hash.string⟩ : Tag) = address
    · rw [← same, Function.update_self] at holds
      rw [← same, fits, Bool.or_eq_true, decide_eq_true_iff, beq_iff_eq] at taken
      cases taken with
      | inl plain => exact absurd (colon_mem_digest other) plain
      | inr text => rw [← Option.some.inj holds, digest_string_injective text]
    · rw [Function.update_of_ne same] at holds
      exact held.addressed repository other found holds

/-- Every manifest can be put under its digest. -/
theorem fits_digest (repository : Repository) (digest : Digest) :
    fits ⟨repository, digest.hash.string⟩ digest = true := by
  simp [fits]

/-- A registry with manifests put under their digests. -/
def Manifests.upload (held : Manifests) (repository : Repository) (digests : List Digest) :
    Manifests :=
  digests.foldl (fun held digest => held.put _ digest (fits_digest repository digest)) held

/-- The state of a run. -/
structure World where
  /-- The destination. -/
  manifests : Manifests
  /-- Number of calls made so far. -/
  calls : Nat
  /-- References for which a HEAD request failed although there was something. -/
  missed : List Tag

/-- What a run is given. -/
structure Session where
  /-- `name.ParseReference`. -/
  parseReference : String → Except GoError Reference
  /-- The name of a tag has no colon. -/
  tagged : ∀ text tag, parseReference text = .ok (.tag tag) → ':' ∉ tag.identifier.toList
  /-- The source registry. -/
  source : Source
  /-- The failure of each call, by its number. -/
  responses : Nat → Responses

section

variable (s : Session)

/-- One more call is made. -/
def nextCall : Proc World Responses := fun world =>
  (.ok (s.responses world.calls), { world with calls := world.calls + 1 })

/-- `remote.Get` of a source. -/
def remoteGet (src : Reference) : Proc World (Except CallError EntityTree) := do
  let response ← nextCall s
  match response.get with
  | some err => return .error err
  | none =>
    match s.source.get src.address with
    | none => return .error (.transport statusNotFound ⟨"MANIFEST_UNKNOWN: manifest unknown"⟩)
    | some tree => return .ok tree

/-- A call that reads what was found. -/
def readManifest : Proc World Unit := do
  let response ← nextCall s
  match response.read with
  | some err => .fail err
  | none => return ()

/-- What a destination reference holds. -/
def resolve (dest : Reference) : Proc World (Option Digest) := fun world =>
  (.ok (world.manifests.get dest.address), world)

/-- Note that a reference was missed. -/
def noteMissed (dest : Reference) : Proc World Unit := fun world =>
  (.ok (), { world with missed := dest.address :: world.missed })

/-- `remote.Head` of a destination, by the digest of the descriptor. -/
def remoteHead (dest : Reference) : Proc World (Except CallError Digest) := do
  let response ← nextCall s
  match response.head, ← resolve dest with
  | some err, some _ =>
    noteMissed dest
    return .error err
  | some err, none => return .error err
  | none, none =>
    return .error (.transport statusNotFound ⟨"unexpected status code 404 Not Found"⟩)
  | none, some digest => return .ok digest

/-- Put manifests under their digests. -/
def upload (repository : Repository) (digests : List Digest) : Proc World Unit := fun world =>
  (.ok (), { world with manifests := world.manifests.upload repository digests })

/-- Move a reference to a digest, if it takes it. -/
def move (dest : Reference) (digest : Digest) : Proc World Unit := fun world =>
  if taken : fits dest.address digest = true then
    (.ok (), { world with manifests := world.manifests.put dest.address digest taken })
  else (.error ⟨"DIGEST_INVALID: provided digest did not match uploaded content"⟩, world)

/-- `remote.Write` and `remote.WriteIndex`: everything below an entity and the entity are
uploaded, and the reference is moved last. -/
def remoteWrite (dest : Reference) (tree : EntityTree) : Proc World Unit := do
  let response ← nextCall s
  match response.write with
  | some failure =>
    upload dest.context failure.uploaded
    if failure.applied then move dest tree.digest
    .fail failure.err
  | none =>
    upload dest.context ((tree :: tree.parts).map EntityTree.digest)
    move dest tree.digest

/-- The end of `copyImage`. -/
def writeImage (dest : Reference) (got : EntityTree) : Proc World Unit := do
  readManifest s
  remoteWrite s dest got

/-- `copyImage`: what is not found at the source is not copied. Without `overwrite`, a destination
that could be looked up is left alone. -/
def copyImage (src dest : Reference) (overwrite : Bool) : Proc World Unit := do
  match ← remoteGet s src with
  | .error (.transport statusCode err) =>
    if statusCode = statusNotFound then return () else .fail err
  | .error (.other err) => .fail err
  | .ok got =>
    if overwrite then writeImage s dest got
    else match ← remoteHead s dest with
      | .error _ => writeImage s dest got
      | .ok dstDesc =>
        if got.digest.hash = dstDesc.hash then return ()
        else .fail ⟨"image \"" ++ dest.name ++ "\" already exists. Use `-f` to overwrite"⟩

/-- The suffixes of the tags that are copied with an entity. -/
inductive TagMap where
  /-- `ociremote.SignatureTag`. -/
  | signature
  /-- `ociremote.AttestationTag`. -/
  | attestation
  /-- `ociremote.SBOMTag`. -/
  | sbom
  deriving DecidableEq, Repr

/-- The tag of a digest. -/
def TagMap.tag (tm : TagMap) (repository : Repository) (digest : Digest) : Tag :=
  match tm with
  | .signature => signatureTag repository digest []
  | .attestation => attestationTag repository digest []
  | .sbom => sbomTag repository digest []

/-- `copyTagImage`. -/
def copyTagImage (tm : TagMap) (srcRepo : Repository) (srcDigest : Digest) (dstRepo : Repository)
    (overwrite : Bool) : Proc World Unit :=
  let src := tm.tag srcRepo srcDigest
  copyImage s (.tag src) (.tag ⟨dstRepo, src.identifier⟩) overwrite

/-- The callback of `CopyCmd`. -/
def copyEntity (srcRepo dstRepo : Repository) (sigOnly force : Bool) (se : EntityTree) :
    Proc World Unit := do
  copyTagImage s .signature srcRepo se.digest dstRepo force
  if sigOnly then return ()
  copyTagImage s .attestation srcRepo se.digest dstRepo force
  copyTagImage s .sbom srcRepo se.digest dstRepo force
  copyImage s (.digest srcRepo se.digest) (.tag ⟨dstRepo, se.digest.hash.string⟩) force

/-- `ociremote.SignedEntity`. -/
def sourceEntity (ref : Reference) : Proc World EntityTree := do
  match ← remoteGet s ref with
  | .error (.transport statusCode err) =>
    .fail (if statusCode = statusNotFound then ⟨"entity not found in registry"⟩ else err)
  | .error (.other err) => .fail err
  | .ok (.other _ mediaType) => .fail (unknownMimeType mediaType)
  | .ok tree =>
    readManifest s
    return tree

/-- `CopyCmd` up to its last call: the entity and everything below it are copied. -/
def copyTree (srcRef dstRef : Reference) (sigOnly force : Bool) : Proc World EntityTree := do
  let root ← sourceEntity s srcRef
  walkEntity (readManifest s) (copyEntity s srcRef.context dstRef.context sigOnly force) root
  return root

/-- `CopyCmd`. -/
def copyCmd (srcImg dstImg : String) (sigOnly force : Bool) : Proc World Unit := do
  let srcRef ← .ofExcept (s.parseReference srcImg)
  let dstRef ← .ofExcept (s.parseReference dstImg)
  let root ← copyTree s srcRef dstRef sigOnly force
  if sigOnly then return ()
  copyImage s (.digest srcRef.context root.digest) dstRef force

end

end Cosign.Cli
