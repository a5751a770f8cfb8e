import Cosign.Cli.Copy
import Cosign.Oci.Layout

/-!
# Saving from a registry and loading into one

`cosign save` writes an entity of a registry and its lists to a layout on disk; `cosign load` writes
the layout to a reference, the entity first. The tags of the lists are made of the digest, which is
asked of the registry once the entity is there. A reference can be the tag of a list too. Calls of a
load may fail (`LoadFaults`); a write that fails changes nothing.
-/
namespace Cosign.Cli

open Cosign.Go Cosign.Encoding Cosign.Oci Cosign.Remote
open Cosign.Verify (Repository)

/-- A manifest of a registry. -/
structure RegistryManifest where
  /-- Image or index. -/
  kind : EntityKind
  digest : Hash
  /-- The layers of an image; an index has none of its own. -/
  layers : List StoredLayer

/-- The manifests of a registry, by what it sees of a reference. -/
abbrev References : Type := Tag → Option RegistryManifest

/-- What the client of a registry rests on. -/
structure RegistryClient where
  /-- The loader of certificates and bundles. -/
  pem : PemLoader
  /-- The image that `remote.Image` picks from the index with a digest. -/
  platformImage : Hash → Except GoError RegistryManifest
  /-- Digest of `empty.Image`. -/
  emptyDigest : Hash

/-- `remote.Image` of a reference; `none` is the answer 404. -/
def RegistryClient.remoteImage (client : RegistryClient) (held : References) (address : Tag) :
    Except GoError (Option RegistryManifest) :=
  match held address with
  | none => .ok none
  | some manifest =>
    match manifest.kind with
    | .image => .ok (some manifest)
    | .index => (client.platformImage manifest.digest).map some

/-- `Signatures` of a reference: one that is not found has the list of `empty.Signatures()`, whose
`Get` returns nil. -/
def RegistryClient.signatures (client : RegistryClient) (held : References) (address : Tag) :
    Except GoError SignatureSlice :=
  (client.remoteImage held address).map fun
    | none => ⟨.empty, .ok client.emptyDigest, .ok none⟩
    | some manifest =>
      ⟨.ofStored manifest.layers, .ok manifest.digest,
        (sigsGet client.pem (.ofStored manifest.layers)).map some⟩

/-- The `image` or `index` that `SignedEntity` returns for a manifest. -/
def RegistryClient.entity (client : RegistryClient) (held : References)
    (manifest : RegistryManifest) (o : Options) : SavedEntity where
  kind := manifest.kind
  digest := .ok manifest.digest
  contents := .ok manifest.layers
  signatures := (client.signatures held (o.suffixTag manifest.digest o.signatureSuffix)).map some
  attestations :=
    (client.signatures held (o.suffixTag manifest.digest o.attestationSuffix)).map some

/-- `SignedEntity` of a reference. -/
def RegistryClient.signedEntity (client : RegistryClient) (held : References) (ref : Reference)
    (opts : List TagOption) : Except GoError SavedEntity :=
  match held ref.address with
  | none => .error ⟨"entity not found in registry"⟩
  | some manifest => .ok (client.entity held manifest (makeOptions ref.context opts))

/-- What `index.json` of a saved entity can list. -/
inductive LoadPart where
  /-- The entity, if it is an index. -/
  | index
  /-- The entity, if it is an image. -/
  | image
  | signatures
  | attestations
  deriving DecidableEq, Repr

/-- The annotation of a part. -/
def LoadPart.mark : LoadPart → String
  | .index => imageIndexAnnotation
  | .image => imageAnnotation
  | .signatures => sigsAnnotation
  | .attestations => attsAnnotation

/-- The calls of a load. -/
inductive LoadStep where
  /-- The part is read from the layout. -/
  | read (part : LoadPart)
  /-- The digest of the reference is asked for, to make the tag of a list. -/
  | resolve (part : LoadPart)
  /-- The part is written to the registry. -/
  | write (part : LoadPart)
  deriving DecidableEq, Repr

/-- The calls of one load that fail. -/
abbrev LoadFaults : Type := LoadStep → Option GoError

/-- A call that fails if it is one of those that do. -/
def attempt (faults : LoadFaults) (step : LoadStep) : Proc References Unit :=
  match faults step with
  | none => .done ()
  | some err => .fail err

/-- A reference takes a manifest: a digest takes no other. -/
def Reference.Takes (h : Hash) : Reference → Prop
  | .tag _ => True
  | .digest _ named => named.hash = h

instance (ref : Reference) (h : Hash) : Decidable (ref.Takes h) :=
  match ref with
  | .tag _ => inferInstanceAs (Decidable True)
  | .digest _ named => inferInstanceAs (Decidable (named.hash = h))

/-- A part of the layout, nil if it is not listed: `SignedImageIndex`, `SignedImage`, `Signatures`
and `Attestations` of the index on disk. -/
def readPart (faults : LoadFaults) (layout : Layout) (part : LoadPart) :
    Proc References (Option LayoutManifest) := do
  attempt faults (.read part)
  return layout.byKind part.mark

/-- The registry puts a manifest under a reference. -/
def putManifest (ref : Reference) (manifest : RegistryManifest) : Proc References Unit :=
  fun held =>
    if ref.Takes manifest.digest then
      (.ok (), Function.update held ref.address (some manifest))
    else (.error ⟨"DIGEST_INVALID: provided digest did not match uploaded content"⟩, held)

/-- The registry answers with the digest under a reference. -/
def digestUnder (address : Tag) : Proc References Hash :=
  fun held =>
    match held address with
    | none => (.error ⟨"MANIFEST_UNKNOWN: manifest unknown"⟩, held)
    | some manifest => (.ok manifest.digest, held)

/-- `remote.Write` and `remote.WriteIndex`. -/
def writePart (faults : LoadFaults) (part : LoadPart) (ref : Reference)
    (manifest : RegistryManifest) : Proc References Unit := do
  attempt faults (.write part)
  putManifest ref manifest

/-- `suffixTag`: the digest of a tag is asked of the registry. -/
def suffixTag (faults : LoadFaults) (part : LoadPart) (ref : Reference) (suffix : String)
    (o : Options) : Proc References Tag :=
  match ref with
  | .digest _ named => .done (o.suffixTag named.hash suffix)
  | .tag named => do
    attempt faults (.resolve part)
    let h ← digestUnder named
    return o.suffixTag h suffix

/-- The entity is written to the reference if it is of a kind. -/
def loadEntity (faults : LoadFaults) (ref : Reference) (layout : Layout) (part : LoadPart)
    (kind : EntityKind) (reading writing : String) : Proc References Unit := do
  match ← (readPart faults layout part).wrap reading with
  | none => .done ()
  | some manifest =>
    (writePart faults part ref ⟨kind, manifest.digest, manifest.layers⟩).wrap writing

/-- A list is written to its tag unless it is nil. -/
def loadList (faults : LoadFaults) (ref : Reference) (layout : Layout) (part : LoadPart)
    (suffix : String) (o : Options) : Proc References Unit := do
  match ← readPart faults layout part with
  | none => .done ()
  | some manifest =>
    let tag ← (suffixTag faults part ref suffix o).wrap "sigs tag"
    writePart faults part (.tag tag) ⟨.image, manifest.digest, manifest.layers⟩

/-- `WriteSignedImageIndexImages`. -/
def writeSignedImageIndexImages (faults : LoadFaults) (ref : Reference) (layout : Layout)
    (opts : List TagOption) : Proc References Unit := do
  let o := makeOptions ref.context opts
  loadEntity faults ref layout .index .index "signed image index" "writing index"
  loadEntity faults ref layout .image .image "signed image" "remote write"
  loadList faults ref layout .signatures o.signatureSuffix o
  loadList faults ref layout .attestations o.attestationSuffix o

end Cosign.Cli
