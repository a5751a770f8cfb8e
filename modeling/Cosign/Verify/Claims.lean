import Cosign.Verify.Platform

/-!
# Claims of a container image signature

The payload of an image signature names the digest of the image it was made for and carries
optional annotations. Both are compared with what the caller asks for.
-/
namespace Cosign.Verify

open Cosign.Go Cosign.Encoding Cosign.Oci

/-- `payload.Critical`, by the fields of its parts. -/
structure Critical where
  /-- Reference of the image in its identity. -/
  dockerReference : String
  /-- Digest of the image. -/
  dockerManifestDigest : String
  /-- Type of the payload. -/
  type : String
  deriving DecidableEq, Repr

/-- `payload.SimpleContainerImage`. -/
structure SimpleContainerImage where
  /-- What the signature is about. -/
  critical : Critical
  /-- Members of the optional metadata. -/
  optional : List (String × Json)
  deriving Repr

namespace Critical

/-- Fields of `payload.Identity`. -/
def identityFields : List (StructField Critical) :=
  [⟨"docker-reference", storeString fun filled text => { filled with dockerReference := text }⟩]

/-- Fields of `payload.Image`. -/
def imageFields : List (StructField Critical) :=
  [⟨"docker-manifest-digest", storeString fun filled text =>
    { filled with dockerManifestDigest := text }⟩]

/-- Struct tags of `payload.Critical`. -/
def fields : List (StructField Critical) :=
  [⟨"identity", fillStruct "payload.Identity" identityFields⟩,
    ⟨"image", fillStruct "payload.Image" imageFields⟩,
    ⟨"type", storeString fun filled text => { filled with type := text }⟩]

end Critical

namespace SimpleContainerImage

/-- Struct tags of `payload.SimpleContainerImage`. -/
def fields : List (StructField SimpleContainerImage) :=
  [⟨"critical", fun filled value =>
      (fillStruct "payload.Critical" Critical.fields filled.critical value).map fun critical =>
        { filled with critical }⟩,
    ⟨"optional", storeMap SimpleContainerImage.optional fun filled optional =>
      { filled with optional }⟩]

/-- `json.Unmarshal` of a payload. -/
def unmarshal (bytes : Bytes) : Except GoError SimpleContainerImage :=
  Encoding.unmarshal (fillStruct "payload.SimpleContainerImage" fields ⟨⟨"", "", ""⟩, []⟩) bytes

end SimpleContainerImage

/-- `correctAnnotations`: every annotation asked for is there, as a string with the same
text. -/
def correctAnnotations (wanted : GoMap String) (given : List (String × Json)) : Bool :=
  wanted.entries.all fun entry =>
    match mapValue given entry.1 with
    | some (.str text) => text == entry.2
    | _ => false

/-- `SimpleClaimVerifier`. -/
def simpleClaimVerifier (sig : Signature) (imageDigest : Hash)
    (annotations : Option (GoMap String)) : Option GoError :=
  match sig.payload with
  | .error err => some err
  | .ok payload =>
    match SimpleContainerImage.unmarshal payload with
    | .error err => some err
    | .ok ss =>
      if ss.critical.dockerManifestDigest ≠ imageDigest.string then
        some ⟨"invalid or missing digest in claim: " ++ ss.critical.dockerManifestDigest⟩
      else match annotations with
        | none => none
        | some annotations =>
          if correctAnnotations annotations ss.optional then none
          else some ⟨"missing or incorrect annotation"⟩

end Cosign.Verify
