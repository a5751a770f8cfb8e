import Cosign.Oci.Mutate
import Cosign.Verify.Entity

/-!
# A registry and the client that writes to it

The signatures of an image are the layers of another image, under a tag made of the digest. A client
reads that image, appends a layer and writes the whole back, so only the answer 404 may stand for an
empty list. Every call may fail instead (`Faults`). A write is atomic: one that fails changes
nothing; the copy command is modelled over a registry of its own, whose failed writes may have been
done in part or in whole.

Verification reads the same registry. `SignedEntity` applies the options of the caller one after
another, so of several that set the repository of the lists the last one counts.
-/
namespace Cosign.Remote

open Cosign.Go Cosign.Encoding Cosign.Oci
open Cosign.Verify (Repository RemoteOption)

/-- Error of a registry call. -/
inductive CallError where
  /-- A `transport.Error`, with the status of the answer. -/
  | transport (statusCode : Nat) (err : GoError)
  /-- Another error. -/
  | other (err : GoError)
  deriving DecidableEq, Repr

/-- `http.StatusNotFound`. -/
def statusNotFound : Nat := 404

/-- `name.Tag`. -/
structure Tag where
  /-- Repository of the tag. -/
  repository : Repository
  /-- Name of the tag. -/
  identifier : String
  deriving DecidableEq, Repr

/-- A digest that `v1.NewHash` accepts: a SHA-256 value. -/
structure Digest where
  /-- The digest. -/
  hash : Hash
  /-- It is a SHA-256 value. -/
  sha256 : hash.algorithm = "sha256"
  /-- It has thirty-two bytes. -/
  sized : hash.hex.toList.length = 64

/-- What a registry holds. -/
structure Registry where
  /-- Media type of the manifest with a digest. -/
  manifests : Repository → Hash → Option String
  /-- Image under a tag. -/
  images : Tag → Option (List StoredLayer)

/-- The calls of one operation that fail, whatever the registry holds. -/
structure Faults where
  /-- Failure of `remote.Get`. -/
  get : Option CallError
  /-- Failure of `Image` or `ImageIndex` of the descriptor. -/
  resolve : Option GoError
  /-- Failure of `remote.Image` for a tag. -/
  image : Tag → Option CallError
  /-- Failure of `remote.Write`. -/
  write : Option GoError
  /-- A tag that is there is not answered with 404. -/
  present : ∀ tag err, image tag ≠ some (.transport statusNotFound err)

/-- No call fails. -/
def Faults.nothing : Faults where
  get := none
  resolve := none
  image _ := none
  write := none
  present _ _ := (Option.some_ne_none _).symm

/-- `remote.Get` of a digest, by the media type of the descriptor. -/
def remoteGet (registry : Registry) (faults : Faults) (repository : Repository) (digest : Digest) :
    Except CallError String :=
  match faults.get with
  | some err => .error err
  | none =>
    match registry.manifests repository digest.hash with
    | none => .error (.transport statusNotFound ⟨"MANIFEST_UNKNOWN: manifest unknown"⟩)
    | some mediaType => .ok mediaType

/-- `remote.Image` of a tag. -/
def remoteImage (registry : Registry) (faults : Faults) (tag : Tag) : Except CallError Image :=
  match faults.image tag with
  | some err => .error err
  | none =>
    match registry.images tag with
    | none => .error (.transport statusNotFound ⟨"MANIFEST_UNKNOWN: manifest unknown"⟩)
    | some layers => .ok (.ofStored layers)

/-- `remote.Write` of an image to a tag. -/
def remoteWrite (registry : Registry) (faults : Faults) (tag : Tag) (image : Image) :
    Registry × Option GoError :=
  match faults.write with
  | some err => (registry, some err)
  | none =>
    match image.published with
    | .error err => (registry, some err)
    | .ok layers =>
      ({ registry with images := Function.update registry.images tag (some layers) }, none)

/-- The `options` of package `remote` that name tags. -/
structure Options where
  signatureSuffix : String
  attestationSuffix : String
  /-- `SBOMSuffix`. -/
  sbomSuffix : String
  tagPrefix : String
  targetRepository : Repository
  deriving DecidableEq, Repr

/-- An `Option` of package `remote` that names tags. -/
inductive TagOption where
  | withPrefix (tagPrefix : String)
  | withSignatureSuffix (suffix : String)
  | withAttestationSuffix (suffix : String)
  | withSBOMSuffix (suffix : String)
  | withTargetRepository (repo : Repository)
  deriving DecidableEq, Repr

/-- `option(o)`. -/
def TagOption.apply (o : Options) : TagOption → Options
  | .withPrefix tagPrefix => { o with tagPrefix }
  | .withSignatureSuffix suffix => { o with signatureSuffix := suffix }
  | .withAttestationSuffix suffix => { o with attestationSuffix := suffix }
  | .withSBOMSuffix suffix => { o with sbomSuffix := suffix }
  | .withTargetRepository repo => { o with targetRepository := repo }

/-- `makeOptions` of package `remote`. -/
def makeOptions (target : Repository) (opts : List TagOption) : Options :=
  opts.foldl TagOption.apply ⟨"sig", "att", "sbom", "", target⟩

/-- `normalize`. -/
def normalize (h : Hash) (tagPrefix suffix : String) : String :=
  if suffix = "" then tagPrefix ++ h.algorithm ++ "-" ++ h.hex
  else tagPrefix ++ h.algorithm ++ "-" ++ h.hex ++ "." ++ suffix

/-- The tag of a digest with a suffix. -/
def Options.suffixTag (o : Options) (h : Hash) (suffix : String) : Tag :=
  ⟨o.targetRepository, normalize h o.tagPrefix suffix⟩

/-- `SignatureTag` of a digest. -/
def signatureTag (repository : Repository) (digest : Digest) (opts : List TagOption) : Tag :=
  let o := makeOptions repository opts
  o.suffixTag digest.hash o.signatureSuffix

/-- `AttestationTag` of a digest. -/
def attestationTag (repository : Repository) (digest : Digest) (opts : List TagOption) : Tag :=
  let o := makeOptions repository opts
  o.suffixTag digest.hash o.attestationSuffix

/-- `SBOMTag` of a digest. -/
def sbomTag (repository : Repository) (digest : Digest) (opts : List TagOption) : Tag :=
  let o := makeOptions repository opts
  o.suffixTag digest.hash o.sbomSuffix

/-- `Signatures` of a tag: a tag that is not found has no signatures. -/
def signatures (pem : PemLoader) (registry : Registry) (faults : Faults) (tag : Tag) :
    Except GoError Signatures :=
  match remoteImage registry faults tag with
  | .error (.transport statusCode err) =>
    if statusCode ≠ statusNotFound then .error err else .ok emptySignatures
  | .error (.other err) => .error err
  | .ok img => .ok (sigs pem img)

/-- The `image` or `index` that `SignedEntity` returns. -/
def remoteEntity (pem : PemLoader) (registry : Registry) (faults : Faults) (kind : EntityKind)
    (h : Hash) (o : Options) : SignedEntity where
  kind := kind
  digest := .ok h
  signatures := .ok (signatures pem registry faults (o.suffixTag h o.signatureSuffix))
  attestations := .ok (signatures pem registry faults (o.suffixTag h o.attestationSuffix))

/-- The kind of entity with a media type, if it is one. -/
def entityKind (mediaType : String) : Option EntityKind :=
  if mediaType = "application/vnd.oci.image.index.v1+json" ∨
      mediaType = "application/vnd.docker.distribution.manifest.list.v2+json" then some .index
  else if mediaType = "application/vnd.oci.image.manifest.v1+json" ∨
      mediaType = "application/vnd.docker.distribution.manifest.v2+json" then some .image
  else none

/-- `SignedEntity` of a digest. -/
def signedEntity (pem : PemLoader) (registry : Registry) (faults : Faults)
    (repository : Repository) (digest : Digest) (opts : List TagOption) :
    Except GoError SignedEntity :=
  let o := makeOptions repository opts
  match remoteGet registry faults repository digest with
  | .error (.transport statusCode err) =>
    if statusCode = statusNotFound then .error ⟨"entity not found in registry"⟩ else .error err
  | .error (.other err) => .error err
  | .ok mediaType =>
    match entityKind mediaType, faults.resolve with
    | none, _ => .error ⟨"unknown mime type: " ++ mediaType⟩
    | some _, some err => .error err
    | some kind, none => .ok (remoteEntity pem registry faults kind digest.hash o)

/-- The end of `WriteSignatures` and `WriteAttestations`: a list is written to a tag that is made
of the digest. -/
def writeList (registry : Registry) (faults : Faults) (list : Call (Except GoError Signatures))
    (digest : Except GoError Hash) (tag : Hash → Tag) : Registry × Call (Option GoError) :=
  match list with
  | .error panic => (registry, .error panic)
  | .ok (.error err) => (registry, .ok (some err))
  | .ok (.ok sigs) =>
    match digest with
    | .error err => (registry, .ok (some err))
    | .ok h =>
      let (next, err) := remoteWrite registry faults (tag h) sigs.image
      (next, .ok err)

/-- `WriteSignatures`. -/
def writeSignatures (registry : Registry) (faults : Faults) (repo : Repository)
    (se : SignedEntity) (opts : List TagOption) : Registry × Call (Option GoError) :=
  let o := makeOptions repo opts
  writeList registry faults se.signatures se.digest fun h => o.suffixTag h o.signatureSuffix

/-- `WriteAttestations`. -/
def writeAttestations (registry : Registry) (faults : Faults) (repo : Repository)
    (se : SignedEntity) (opts : List TagOption) : Registry × Call (Option GoError) :=
  let o := makeOptions repo opts
  writeList registry faults se.attestations se.digest fun h => o.suffixTag h o.attestationSuffix

/-- One run of the sign or the attach-signature command from the point where it has a signature
for a digest, with the calls that fail in it. -/
structure Operation where
  /-- Repository of the digest. -/
  repository : Repository
  digest : Digest
  sig : OciSignature
  /-- Options of `AttachSignatureToEntity`; sign gives a duplicate detector. -/
  signOpts : List SignOption
  /-- The calls that fail. -/
  faults : Faults

/-- The commands read the entity, attach the signature and publish the list. -/
def Operation.run (pem : PemLoader) (opts : List TagOption) (registry : Registry)
    (op : Operation) : Registry × Call (Option GoError) :=
  match signedEntity pem registry op.faults op.repository op.digest opts with
  | .error err => (registry, .ok (some err))
  | .ok se =>
    writeSignatures registry op.faults op.repository
      (attachSignatureToEntity se op.sig op.signOpts) opts

/-- The registry after one operation after another. -/
def runAll (pem : PemLoader) (opts : List TagOption) (registry : Registry)
    (ops : List Operation) : Registry :=
  ops.foldl (fun reached op => (op.run pem opts reached).1) registry

/-! ## Verification against a registry -/

/-- What an option sets among the names of tags; credentials set nothing there. -/
def tagOption : RemoteOption → Option TagOption
  | .targetRepository repo => some (.withTargetRepository repo)
  | .authFromKeychain _ => none

/-- How the name of an image with a digest is taken apart. -/
abbrev DigestNames : Type := String → Except GoError (Repository × Digest)

/-- The entity that `SignedEntity` returns, by what verification reads of it. -/
def readEntity (pem : PemLoader) (registry : Registry) (faults : Faults) (h : Hash) (o : Options) :
    Verify.SignedEntity where
  digest := .ok h
  signatures :=
    (signatures pem registry faults (o.suffixTag h o.signatureSuffix)).map Verify.Signatures.ofList
  attestations :=
    (signatures pem registry faults (o.suffixTag h o.attestationSuffix)).map
      Verify.Signatures.ofList

/-- A registry as verification reads it; it has no layouts on disk. -/
def reader (pem : PemLoader) (names : DigestNames) (registry : Registry) (faults : Faults) :
    Verify.Registry where
  parseReference name := (names name).map fun _ => name
  signedEntity name opts := do
    let (repository, digest) ← names name
    let tagOpts := opts.filterMap tagOption
    let _ ← signedEntity pem registry faults repository digest tagOpts
    .ok (readEntity pem registry faults digest.hash (makeOptions repository tagOpts))
  signedImageIndex path := .error ⟨"stat " ++ path ++ ": no such file or directory"⟩

end Cosign.Remote
