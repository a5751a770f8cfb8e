import Cosign.Oci.Image

/-!
# Signatures built in memory

`static.NewSignature` and `static.NewAttestation` build a signature from bytes and options. The
accessors read the options; the annotations, which are all that is left of them after an upload, are
written when the signature is built. The slices of a certificate option and the map of annotations,
which the code writes to, can be nil.
-/
namespace Cosign.Oci

open Cosign.Go Cosign.Encoding

/-- `SignatureAnnotationKey`. -/
def signatureAnnotationKey : String := "dev.cosignproject.cosign/signature"

/-- `CertificateAnnotationKey`. -/
def certificateAnnotationKey : String := "dev.sigstore.cosign/certificate"

/-- `ChainAnnotationKey`. -/
def chainAnnotationKey : String := "dev.sigstore.cosign/chain"

/-- `BundleAnnotationKey`. -/
def bundleAnnotationKey : String := "dev.sigstore.cosign/bundle"

/-- The key that signatures are written under is the key that a layer reads. -/
@[simp] theorem signatureAnnotationKey_eq : signatureAnnotationKey = sigkey := rfl

/-- The key that certificates are written under is the key that a layer reads. -/
@[simp] theorem certificateAnnotationKey_eq : certificateAnnotationKey = certkey := rfl

/-- The key that chains are written under is the key that a layer reads. -/
@[simp] theorem chainAnnotationKey_eq : chainAnnotationKey = chainkey := rfl

/-- The key that bundles are written under is the key that a layer reads. -/
@[simp] theorem bundleAnnotationKey_eq : bundleAnnotationKey = bundleKey := rfl

namespace RekorBundle

/-- The tree that `json.Marshal` writes for a bundle, whose fields have no tags. -/
def toJson (bundle : RekorBundle) : Json :=
  .obj [("SignedEntryTimestamp", .str (Base64.stdEncode bundle.signedEntryTimestamp)),
    ("Payload", bundle.payload.toJson)]

/-- `string(b)` of the bytes that `json.Marshal` returns; the body comes from JSON, so there is
no value it fails on. -/
def marshal (bundle : RekorBundle) : String := String.ofList (Json.render bundle.toJson)

end RekorBundle

/-- The `options` of package `static` that a signature reads. A nil slice is `none`, and so is a
nil map. -/
structure StaticOptions where
  layerMediaType : String
  bundle : Option RekorBundle
  /-- `Cert`, a PEM text. -/
  cert : Option String
  /-- `Chain`, a PEM text. -/
  chain : Option String
  annotations : Option (GoMap String)

/-- A `static.Option`. -/
inductive StaticOption where
  | withLayerMediaType (mediaType : String)
  | withAnnotations (ann : Option (GoMap String))
  | withBundle (bundle : Option RekorBundle)
  | withCertChain (cert chain : Option String)

/-- `opt(o)`. -/
def StaticOption.apply (o : StaticOptions) : StaticOption → StaticOptions
  | .withLayerMediaType mediaType => { o with layerMediaType := mediaType }
  | .withAnnotations ann => { o with annotations := ann }
  | .withBundle bundle => { o with bundle := bundle }
  | .withCertChain cert chain => { o with cert := cert, chain := chain }

/-- `ctypes.SimpleSigningMediaType`. -/
def simpleSigningMediaType : String := "application/vnd.dev.cosign.simplesigning.v1+json"

/-- The options before `makeOptions` writes annotations. -/
def StaticOptions.given (opts : List StaticOption) : StaticOptions :=
  opts.foldl StaticOption.apply ⟨simpleSigningMediaType, none, none, none, some ∅⟩

/-- `m[key] = value`; a nil map panics. -/
def assign (entries : Option (GoMap String)) (key value : String) : Call (Option (GoMap String)) :=
  match entries with
  | some entries => .ok (some (entries.insert key value))
  | none => .error (.raised ⟨"assignment to entry in nil map"⟩)

/-- The annotations that `makeOptions` adds for a certificate. -/
def assignCert (o : StaticOptions) : Call (Option (GoMap String)) :=
  match o.cert with
  | none => .ok o.annotations
  | some cert => do
    let ann ← assign o.annotations certificateAnnotationKey cert
    assign ann chainAnnotationKey (o.chain.getD "")

/-- `makeOptions` of package `static`. -/
def makeStaticOptions (opts : List StaticOption) : Call StaticOptions := do
  let o := StaticOptions.given opts
  let ann ← assignCert o
  match o.bundle with
  | none => .ok { o with annotations := ann }
  | some bundle => do
    let ann ← assign ann bundleAnnotationKey bundle.marshal
    .ok { o with annotations := ann }

/-- `staticLayer`. -/
structure StaticLayer where
  /-- The payload. -/
  b : Bytes
  /-- The signature in base64. -/
  b64sig : String
  opts : StaticOptions

/-- `v1.SHA256`. -/
def sha256Hash (sha256 : Bytes → Bytes) (bytes : Bytes) : Hash :=
  ⟨"sha256", Hex.encodeToString (sha256 bytes)⟩

namespace StaticLayer

/-- `l.Annotations()`. -/
def annotations (l : StaticLayer) : GoMap String :=
  (l.opts.annotations.getD ∅).insert signatureAnnotationKey l.b64sig

/-- `l.Cert()`; reading from a nil slice reads nothing. -/
def cert (pem : PemLoader) (l : StaticLayer) : Except GoError (Option Certificate) := do
  let certs ← pem.load (l.opts.cert.getD "")
  .ok certs.head?

/-- `l.Chain()`. -/
def chain (pem : PemLoader) (l : StaticLayer) : Except GoError (List Certificate) :=
  pem.load (l.opts.chain.getD "")

/-- The methods of `v1.Layer`. -/
def layer (sha256 : Bytes → Bytes) (l : StaticLayer) : Layer where
  digest := .ok (sha256Hash sha256 l.b)
  mediaType := .ok l.opts.layerMediaType
  compressed := .ok l.b
  uncompressed := .ok l.b

/-- The static layer as a value of the interface. -/
def signature (pem : PemLoader) (sha256 : Bytes → Bytes) (l : StaticLayer) : OciSignature where
  annotations := .ok l.annotations
  payload := .ok l.b
  base64Signature := .ok l.b64sig
  cert := l.cert pem
  chain := l.chain pem
  bundle := .ok l.opts.bundle
  layer := l.layer sha256
  payload_eq := rfl

end StaticLayer

/-- `static.NewSignature`. -/
def newSignature (pem : PemLoader) (sha256 : Bytes → Bytes) (payload : Bytes) (b64sig : String)
    (opts : List StaticOption) : Call OciSignature := do
  let o ← makeStaticOptions opts
  .ok (StaticLayer.signature pem sha256 ⟨payload, b64sig, o⟩)

/-- `static.NewAttestation`: the signature is inside the payload. -/
def newAttestation (pem : PemLoader) (sha256 : Bytes → Bytes) (payload : Bytes)
    (opts : List StaticOption) : Call OciSignature :=
  newSignature pem sha256 payload "" opts

end Cosign.Oci
