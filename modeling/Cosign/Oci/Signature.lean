import Cosign.Go.Map
import Cosign.Encoding.Unmarshal
import Cosign.Oci.Certificate

/-!
# Signatures and their layers

A value of the interface `oci.Signature` is the results of its accessors. `SigLayer` computes them
from the bytes and annotations of a layer, all of which an attacker who can write to the registry
chooses. The body of a bundle is an `interface{}`: any JSON value.
-/
namespace Cosign.Oci

open Cosign.Go Cosign.Encoding

/-- `v1.Hash`. -/
structure Hash where
  /-- Name of the hash function. -/
  algorithm : String
  /-- Digest in hexadecimal. -/
  hex : String
  deriving DecidableEq, Repr

/-- `h.String()`. -/
def Hash.string (hash : Hash) : String := hash.algorithm ++ ":" ++ hash.hex

/-- `bundle.RekorPayload`. -/
structure RekorPayload where
  /-- The `interface{}` of the entry body. -/
  body : Json
  /-- Unix second at which the log integrated the entry. -/
  integratedTime : Int64
  /-- Index of the entry in the log. -/
  logIndex : Int64
  /-- Hash of the key of the log. -/
  logID : String
  deriving Repr

/-- `bundle.RekorBundle`. -/
structure RekorBundle where
  /-- The log's signature over the payload. -/
  signedEntryTimestamp : Bytes
  /-- What the log signed. -/
  payload : RekorPayload
  deriving Repr

namespace RekorPayload

/-- The zero value that decoding starts from. -/
def zero : RekorPayload := ⟨.null, 0, 0, ""⟩

/-- Struct tags of `RekorPayload`. -/
def fields : List (StructField RekorPayload) :=
  [⟨"body", storeAny fun filled value => { filled with body := value }⟩,
    ⟨"integratedTime", storeInt64 fun filled value => { filled with integratedTime := value }⟩,
    ⟨"logIndex", storeInt64 fun filled value => { filled with logIndex := value }⟩,
    ⟨"logID", storeString fun filled value => { filled with logID := value }⟩]

/-- The tree that `json.Marshal` writes for a payload. -/
def toJson (payload : RekorPayload) : Json :=
  .obj [("body", payload.body), ("integratedTime", .num (toString payload.integratedTime)),
    ("logIndex", .num (toString payload.logIndex)), ("logID", .str payload.logID)]

end RekorPayload

namespace RekorBundle

/-- The zero value that decoding starts from. -/
def zero : RekorBundle := ⟨[], .zero⟩

/-- Struct fields of `RekorBundle`, which has no tags. -/
def fields : List (StructField RekorBundle) :=
  [⟨"SignedEntryTimestamp", storeBytes fun filled bytes =>
      { filled with signedEntryTimestamp := bytes }⟩,
    ⟨"Payload", fun filled value =>
      (fillStruct "bundle.RekorPayload" RekorPayload.fields filled.payload value).map fun payload =>
        { filled with payload }⟩]

/-- `json.Unmarshal` of a bundle annotation. -/
def unmarshal (bytes : Bytes) : Except GoError RekorBundle :=
  Encoding.unmarshal (fillStruct "bundle.RekorBundle" fields zero) bytes

end RekorBundle

/-- A value of the `oci.Signature` interface, by what its accessors return. -/
structure Signature where
  annotations : Except GoError (GoMap String)
  /-- `Payload()`: the opaque data that is signed. -/
  payload : Except GoError Bytes
  base64Signature : Except GoError String
  /-- `Cert()`: the optional certificate. -/
  cert : Except GoError (Option Certificate)
  /-- `Chain()`: the optional chain; nil is the empty list. -/
  chain : Except GoError (List Certificate)
  /-- `Bundle()`: the optional log evidence. -/
  bundle : Except GoError (Option RekorBundle)

/-- Annotation key of the signature. -/
def sigkey : String := "dev.cosignproject.cosign/signature"

/-- Annotation key of the certificate. -/
def certkey : String := "dev.sigstore.cosign/certificate"

/-- Annotation key of the certificate chain. -/
def chainkey : String := "dev.sigstore.cosign/chain"

/-- Annotation key of the bundle. -/
def bundleKey : String := "dev.sigstore.cosign/bundle"

/-- `cryptoutils.LoadCertificatesFromPEM`: it fails or, on a text that is not empty, returns at
least one certificate. -/
structure PemLoader where
  /-- Certificates of a PEM text in order. -/
  load : String → Except GoError (List Certificate)
  /-- The decoding loop runs at least once on a text that is not empty. -/
  nonempty : ∀ text certs, text ≠ "" → load text = .ok certs → certs ≠ []

/-- A layer of a signature image with its descriptor. -/
structure SigLayer where
  /-- Raw bytes from the registry. -/
  compressed : Except GoError Bytes
  /-- Digest in the descriptor. -/
  digest : Hash
  /-- Annotations in the descriptor. -/
  annotations : GoMap String

namespace SigLayer

/-- Value of an annotation; an absent one reads as the empty string. -/
def annotation (layer : SigLayer) (key : String) : String :=
  (layer.annotations.lookup key).getD ""

/-- `s.Base64Signature()`. -/
def base64Signature (layer : SigLayer) : Except GoError String :=
  match layer.annotations.lookup sigkey with
  | some b64sig => .ok b64sig
  | none => .error ⟨"signature layer " ++ layer.digest.string ++ " is missing \"" ++ sigkey ++
      "\" annotation"⟩

/-- `s.Cert()`: the first certificate of the annotation. -/
def cert (pem : PemLoader) (layer : SigLayer) : Except GoError (Option Certificate) :=
  if blank : layer.annotation certkey = "" then .ok none
  else match loaded : pem.load (layer.annotation certkey) with
    | .error err => .error err
    | .ok certs => .ok (some (certs.head (pem.nonempty _ _ blank loaded)))

/-- `s.Chain()`. -/
def chain (pem : PemLoader) (layer : SigLayer) : Except GoError (List Certificate) :=
  if layer.annotation chainkey = "" then .ok []
  else pem.load (layer.annotation chainkey)

/-- `s.Bundle()`. -/
def bundle (layer : SigLayer) : Except GoError (Option RekorBundle) :=
  let val := layer.annotation bundleKey
  if val = "" then .ok none
  else match RekorBundle.unmarshal (utf8Bytes val) with
    | .error err => .error (err.wrap "unmarshaling bundle")
    | .ok bundle => .ok (some bundle)

/-- The layer as a value of the interface. -/
def signature (pem : PemLoader) (layer : SigLayer) : Signature where
  annotations := .ok layer.annotations
  payload := layer.compressed
  base64Signature := layer.base64Signature
  cert := layer.cert pem
  chain := layer.chain pem
  bundle := layer.bundle

end SigLayer

end Cosign.Oci
