import Cosign.Oci.Static

/-!
# Changed signatures and signature lists

Package `mutate` changes values without copying them: a changed signature wraps the original, and a
longer list wraps a base list. The image and the `Get` of a wrapped list are computed apart from
each other. `signedImage` and `signedImageIndex` agree in all but how they publish a replaced list
of attestations.
-/
namespace Cosign.Oci

open Cosign.Go Cosign.Encoding

/-- `signatureOpts`. A nil slice or map is `none`. -/
structure SignatureOpts where
  /-- New annotations. -/
  annotations : Option (GoMap String)
  /-- New bundle. -/
  bundle : Option RekorBundle
  /-- New certificate, a PEM text. -/
  cert : Option String
  /-- New chain, a PEM text. -/
  chain : Option String
  /-- New media type; empty keeps the old one. -/
  mediaType : String

/-- A `SignatureOption`. -/
inductive SignatureOption where
  | withAnnotations (annotations : Option (GoMap String))
  | withBundle (bundle : Option RekorBundle)
  | withCertChain (cert chain : Option String)
  | withMediaType (mediaType : String)

/-- `opt(so)`. -/
def SignatureOption.apply (so : SignatureOpts) : SignatureOption → SignatureOpts
  | .withAnnotations annotations => { so with annotations := annotations }
  | .withBundle bundle => { so with bundle := bundle }
  | .withCertChain cert chain => { so with cert := cert, chain := chain }
  | .withMediaType mediaType => { so with mediaType := mediaType }

/-- `makeSignatureOption`. -/
def makeSignatureOption (opts : List SignatureOption) : SignatureOpts :=
  opts.foldl SignatureOption.apply ⟨none, none, none, none, ""⟩

/-- `sigWrapper`: what is nil or empty is answered by the wrapped signature. -/
structure SigWrapper where
  /-- The original. -/
  wrapped : OciSignature
  /-- Annotations, nil when not set. -/
  annotations : Option (GoMap String)
  /-- Bundle, nil when not set. -/
  bundle : Option RekorBundle
  /-- Certificate, nil when not set. -/
  cert : Option Certificate
  /-- Chain, nil when not set. -/
  chain : Option (List Certificate)
  /-- Media type, empty when not set. -/
  mediaType : String

namespace SigWrapper

/-- A value of the wrapper, or what the wrapped signature answers. -/
def orWrapped {α : Type} (own : Option α) (wrapped : Except GoError α) : Except GoError α :=
  match own with
  | some value => .ok value
  | none => wrapped

/-- The methods of `v1.Layer`. -/
def layer (sw : SigWrapper) : Layer :=
  { sw.wrapped.layer with
    mediaType := if sw.mediaType = "" then sw.wrapped.layer.mediaType else .ok sw.mediaType }

/-- The wrapper as a value of the interface. -/
def signature (sw : SigWrapper) : OciSignature where
  annotations := orWrapped sw.annotations sw.wrapped.annotations
  payload := sw.wrapped.payload
  base64Signature := sw.wrapped.base64Signature
  cert := orWrapped (sw.cert.map some) sw.wrapped.cert
  chain := orWrapped sw.chain sw.wrapped.chain
  bundle := orWrapped (sw.bundle.map some) sw.wrapped.bundle
  layer := sw.layer
  payload_eq := sw.wrapped.payload_eq

end SigWrapper

/-- One round of the loop that keeps an old annotation: it is copied or it stays absent. -/
def keepUnreserved (oldAnn newAnn : GoMap String) (key : String) : GoMap String :=
  match oldAnn.lookup key with
  | some val => newAnn.insert key val
  | none => newAnn.erase key

/-- New annotations with the four reserved keys as they were. -/
def withReserved (oldAnn given : GoMap String) : GoMap String :=
  [bundleAnnotationKey, certificateAnnotationKey, chainAnnotationKey].foldl (keepUnreserved oldAnn)
    (given.insert signatureAnnotationKey ((oldAnn.lookup signatureAnnotationKey).getD ""))

/-- The annotations of `Signature` before a certificate is set. -/
def mutatedAnnotations (so : SignatureOpts) (oldAnn : GoMap String) : GoMap String :=
  let newAnn := match so.annotations with
    | some given => withReserved oldAnn given
    | none => oldAnn
  match so.bundle with
  | some bundle => newAnn.insert bundleAnnotationKey bundle.marshal
  | none => newAnn

/-- The part of `Signature` that sets a certificate and its chain. -/
def setCertChain (pem : PemLoader) (newSig : SigWrapper) (newAnn : GoMap String) (certPem : String)
    (chainPem : Option String) : Call (Except GoError OciSignature) :=
  match pem.load certPem with
  | .error err => .ok (.error err)
  | .ok [] => .error .indexOutOfRange
  | .ok (cert :: _) =>
    let newAnn := (newAnn.insert certificateAnnotationKey certPem).erase chainAnnotationKey
    match chainPem with
    | none => .ok (.ok ({ newSig with annotations := some newAnn, cert := some cert }).signature)
    | some chainPem =>
      match pem.load chainPem with
      | .error err => .ok (.error err)
      | .ok chain =>
        .ok (.ok ({ newSig with
          annotations := some (newAnn.insert chainAnnotationKey chainPem)
          cert := some cert
          chain := some chain }).signature)

/-- `mutate.Signature`. -/
def mutateSignature (pem : PemLoader) (original : OciSignature) (opts : List SignatureOption) :
    Call (Except GoError OciSignature) :=
  let so := makeSignatureOption opts
  match original.annotations with
  | .error err => .ok (.error (err.wrap "could not get annotations from signature to mutate"))
  | .ok oldAnn =>
    let newAnn := mutatedAnnotations so oldAnn
    let newSig : SigWrapper := ⟨original, some newAnn, so.bundle, none, none, so.mediaType⟩
    match so.cert with
    | none => .ok (.ok newSig.signature)
    | some certPem => setCertChain pem newSig newAnn certPem so.chain

/-- The addendum for a signature. -/
def addendum (sig : OciSignature) : Except GoError Addendum := do
  let ann ← sig.annotations
  .ok ⟨sig.layer, ann⟩

/-- `sa.Get()`: the list of the base and then the signatures. -/
def sigAppenderGet (base : Signatures) (sigs : List OciSignature) :
    Except GoError (List OciSignature) := do
  let sl ← base.get
  .ok (sl ++ sigs)

/-- `AppendSignatures`. -/
def appendSignatures (base : Signatures) (sigs : List OciSignature) :
    Except GoError Signatures := do
  let adds ← sigs.mapM addendum
  .ok ⟨base.image.append adds, sigAppenderGet base sigs⟩

/-- `ReplaceSignatures`: the image holds the list of the base only, and `Get` is that of a
`sigAppender` over the same base. -/
def replaceSignatures (base : Signatures) : Except GoError Signatures := do
  let sigs ← base.get
  let adds ← sigs.mapM addendum
  .ok ⟨Image.empty.append adds, sigAppenderGet base sigs⟩

/-- `DupeDetector`, by its method `Find`. -/
structure DupeDetector where
  /-- A signature of the list that makes the new one redundant. -/
  find : Signatures → OciSignature → Except GoError (Option OciSignature)

/-- `ReplaceOp`, by its method `Replace`. -/
structure ReplaceOp where
  /-- The list with the new signature in place of those it replaces. -/
  replace : Signatures → OciSignature → Call (Except GoError Signatures)

/-- `signOpts`. -/
structure SignOpts where
  /-- The duplicate detector, if any. -/
  dd : Option DupeDetector
  /-- The replace operation, if any. -/
  ro : Option ReplaceOp

/-- A `SignOption`. -/
inductive SignOption where
  | withDupeDetector (dd : DupeDetector)
  | withReplaceOp (ro : ReplaceOp)

/-- `opt(so)`. -/
def SignOption.apply (so : SignOpts) : SignOption → SignOpts
  | .withDupeDetector dd => { so with dd := some dd }
  | .withReplaceOp ro => { so with ro := some ro }

/-- `makeSignOpts`. -/
def makeSignOpts (opts : List SignOption) : SignOpts :=
  opts.foldl SignOption.apply ⟨none, none⟩

/-- The two kinds of `oci.SignedEntity`. -/
inductive EntityKind where
  /-- `oci.SignedImage`. -/
  | image
  /-- `oci.SignedImageIndex`. -/
  | index
  deriving DecidableEq, Repr

/-- An `oci.SignedEntity`, by what its methods return. -/
structure SignedEntity where
  /-- Image or index. -/
  kind : EntityKind
  digest : Except GoError Hash
  signatures : Call (Except GoError Signatures)
  attestations : Call (Except GoError Signatures)

/-- What the duplicate detector says of a new signature; without one nothing is redundant. -/
def findExisting (so : SignOpts) (base : Signatures) (sig : OciSignature) :
    Except GoError (Option OciSignature) :=
  match so.dd with
  | none => .ok none
  | some dd => dd.find base sig

/-- The list of an entity with one more element: the method `Signatures` and, with another
`extend`, the method `Attestations` of the attached entities. -/
def attached (base : Call (Except GoError Signatures)) (sig : Option OciSignature) (so : SignOpts)
    (extend : Signatures → OciSignature → Call (Except GoError Signatures)) :
    Call (Except GoError Signatures) := do
  match ← base, sig with
  | .error err, _ => .ok (.error err)
  | .ok base, none => .ok (.ok base)
  | .ok base, some sig =>
    match findExisting so base sig with
    | .error err => .ok (.error err)
    | .ok (some _) => .ok (.ok base)
    | .ok none => extend base sig

/-- The end of `Attestations`: the new attestation replaces others or is appended. -/
def extendAttestations (so : SignOpts) (publish : Signatures → Except GoError Signatures)
    (base : Signatures) (att : OciSignature) : Call (Except GoError Signatures) :=
  match so.ro with
  | none => .ok (appendSignatures base [att])
  | some ro => do
    match ← ro.replace base att with
    | .error err => .ok (.error err)
    | .ok replaced => .ok (publish replaced)

/-- `si.Signatures()` and `sii.Signatures()`. -/
def attachedSignatures (se : SignedEntity) (sig : Option OciSignature) (so : SignOpts) :
    Call (Except GoError Signatures) :=
  attached se.signatures sig so fun base sig => .ok (appendSignatures base [sig])

/-- `si.Attestations()`: a replaced list is published as an append of nothing. -/
def signedImageAttestations (se : SignedEntity) (att : Option OciSignature) (so : SignOpts) :
    Call (Except GoError Signatures) :=
  attached se.attestations att so
    (extendAttestations so fun replaced => appendSignatures replaced [])

/-- `sii.Attestations()`: a replaced list is published by `ReplaceSignatures`. -/
def signedImageIndexAttestations (se : SignedEntity) (att : Option OciSignature) (so : SignOpts) :
    Call (Except GoError Signatures) :=
  attached se.attestations att so (extendAttestations so replaceSignatures)

/-- An entity with at most one signature and one attestation attached: `signedImage` and
`signedImageIndex`. -/
def attach (se : SignedEntity) (sig att : Option OciSignature) (so : SignOpts) : SignedEntity :=
  { se with
    signatures := attachedSignatures se sig so
    attestations := match se.kind with
      | .image => signedImageAttestations se att so
      | .index => signedImageIndexAttestations se att so }

/-- `AttachSignatureToEntity`. -/
def attachSignatureToEntity (se : SignedEntity) (sig : OciSignature) (opts : List SignOption) :
    SignedEntity :=
  attach se (some sig) none (makeSignOpts opts)

/-- `AttachAttestationToEntity`. -/
def attachAttestationToEntity (se : SignedEntity) (att : OciSignature) (opts : List SignOption) :
    SignedEntity :=
  attach se none (some att) (makeSignOpts opts)

end Cosign.Oci
