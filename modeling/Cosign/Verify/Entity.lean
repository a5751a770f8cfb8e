import Cosign.Oci.Layout
import Cosign.Verify.Image

/-!
# Signed entities of a registry or a layout

The functions that look an image up and hand its signatures or attestations, with its digest,
to the loops.
-/
namespace Cosign.Verify

open Cosign.Go Cosign.Oci

/-- An `oci.Signatures`, by what its `Get` returns. -/
abbrev Signatures : Type := Except GoError (List Signature)

/-- A signed entity of a registry. -/
structure SignedEntity where
  digest : Except GoError Hash
  signatures : Except GoError Signatures
  attestations : Except GoError Signatures

/-- A signed entity of a layout on disk. Its lists can be nil. -/
structure LocalEntity where
  /-- `SignedImageIndex(v1.Hash{})` and the `Digest()` of the index, if there is one. -/
  index : Except GoError (Option (Except GoError Hash))
  /-- `SignedImage(v1.Hash{})` and the `Digest()` of the image, if there is one. -/
  image : Except GoError (Option (Except GoError Hash))
  signatures : Except GoError (Option Signatures)
  attestations : Except GoError (Option Signatures)

/-- The methods of a signature list, by what its `Get` returns. -/
def Signatures.ofList (list : Oci.Signatures) : Signatures :=
  list.get.map fun sl => sl.map (·.toSignature)

/-- The `index` that `layout.SignedImageIndex` returns. -/
def LocalEntity.ofLayout (pem : PemLoader) (layout : Layout) : LocalEntity where
  index := .ok ((layout.byKind imageIndexAnnotation).map fun m => .ok m.digest)
  image := .ok ((layout.byKind imageAnnotation).map fun m => .ok m.digest)
  signatures := .ok ((layout.listByKind pem sigsAnnotation).map .ofList)
  attestations := .ok ((layout.listByKind pem attsAnnotation).map .ofList)

/-- Where signed entities come from. -/
structure Registry where
  /-- `name.ParseReference`, by the text of the reference. -/
  parseReference : String → Except GoError String
  /-- `ociremote.SignedEntity`. -/
  signedEntity : String → List RemoteOption → Except GoError SignedEntity
  /-- `layout.SignedImageIndex`. -/
  signedImageIndex : String → Except GoError LocalEntity

/-- The options after a call, the entries it returns, its bundle flag and its error. -/
abbrev Outcome : Type := CheckOpts × List Signature × Bool × Option GoError

/-- A call that fails before the options are written. -/
def Outcome.failed (co : CheckOpts) (err : GoError) : Outcome := (co, [], false, some err)

/-- `getSignedEntity`: the entity and its digest. -/
def getSignedEntity (registry : Registry) (signedImgRef : String)
    (regClientOpts : List RemoteOption) : Except GoError (SignedEntity × Hash) :=
  match registry.signedEntity signedImgRef regClientOpts with
  | .error err => .error err
  | .ok se =>
    match se.digest with
    | .error err => .error err
    | .ok h => .ok (se, h)

/-- `VerifyImageSignatures` of a reference, with options that name no signature file. -/
def verifyImageSignatures (p : Platform) (registry : Registry) (signedImgRef : String)
    (co : CheckOpts) : Call Outcome :=
  if co.rootCerts.isNone && co.sigVerifier.isNone then
    .ok (.failed co ⟨"one of verifier or root certs is required"⟩)
  else match getSignedEntity registry signedImgRef co.registryClientOpts with
    | .error err => .ok (.failed co err)
    | .ok (se, h) =>
      match se.signatures with
      | .error err => .ok (.failed co err)
      | .ok sigs => verifySignatures p sigs h co

/-- `VerifyImageAttestations` of a reference. -/
def verifyImageAttestationsOf (p : Platform) (registry : Registry) (signedImgRef : String)
    (co : CheckOpts) : Call Outcome :=
  if co.rootCerts.isNone && co.sigVerifier.isNone then
    .ok (.failed co ⟨"one of verifier or root certs is required"⟩)
  else match getSignedEntity registry signedImgRef co.registryClientOpts with
    | .error err => .ok (.failed co err)
    | .ok (se, h) =>
      match se.attestations with
      | .error err => .ok (.failed co err)
      | .ok atts => verifyImageAttestations p atts h co

/-- The digest of a layout: that of its index, or else of its image. -/
def LocalEntity.digest (se : LocalEntity) : Except GoError Hash :=
  match se.index with
  | .error err => .error err
  | .ok ii =>
    match se.image with
    | .error err => .error err
    | .ok i =>
      match ii, i with
      | some digest, _ => digest
      | none, some digest => digest
      | none, none => .error ⟨"must verify either an image index or image"⟩

/-- `VerifyLocalImageSignatures` of a path. -/
def verifyLocalImageSignatures (p : Platform) (registry : Registry) (path : String)
    (co : CheckOpts) : Call Outcome :=
  if co.rootCerts.isNone && co.sigVerifier.isNone then
    .ok (.failed co ⟨"one of verifier or root certs is required"⟩)
  else match registry.signedImageIndex path with
    | .error err => .ok (.failed co err)
    | .ok se =>
      match se.digest with
      | .error err => .ok (.failed co err)
      | .ok h =>
        match se.signatures with
        | .error err => .ok (.failed co err)
        | .ok sigs => do
          let sigs ← deref sigs
          verifySignatures p sigs h co

/-- `VerifyLocalImageAttestations` of a path. -/
def verifyLocalImageAttestations (p : Platform) (registry : Registry) (path : String)
    (co : CheckOpts) : Call Outcome :=
  if co.rootCerts.isNone && co.sigVerifier.isNone then
    .ok (.failed co ⟨"one of verifier or root certs is required"⟩)
  else match registry.signedImageIndex path with
    | .error err => .ok (.failed co err)
    | .ok se =>
      match se.digest with
      | .error err => .ok (.failed co err)
      | .ok h =>
        match se.attestations with
        | .error err => .ok (.failed co err)
        | .ok atts => do
          let atts ← deref atts
          verifyImageAttestations p atts h co

end Cosign.Verify
