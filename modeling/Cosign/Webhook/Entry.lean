import Cosign.Encoding.Struct
import Cosign.Webhook.Api

/-!
# The entry of a policy in the configuration map

The resource is converted to the webhook's form, which keeps of a key reference only its inline
data, and is marshalled. Public keys and remote options are not written; the webhook computes them
when it reads the entry.
-/
namespace Cosign.Webhook

open Cosign.Go Cosign.Encoding Cosign.Verify

/-- `ClusterImagePolicy` as `ConvertClusterImagePolicyV1alpha1ToWebhook` makes it. Unlike a policy
that was read, its images can be nil, which shows in JSON. -/
structure ConvertedPolicy where
  /-- Patterns of the images the policy is about. -/
  images : Option (List ImagePattern)
  /-- Authorities of which one has to be satisfied. -/
  authorities : List Authority
  deriving DecidableEq, Repr

/-- `convertKeyRefV1Alpha1ToWebhook` of a reference that is not nil. -/
def convertKeyRefV1Alpha1ToWebhook (keyRef : V1alpha1.KeyRef) : KeyRef := ⟨keyRef.data, []⟩

/-- `convertKeylessRefV1Alpha1ToWebhook` of a reference that is not nil. Whether identities are nil
or empty does not show any more. -/
def convertKeylessRefV1Alpha1ToWebhook (keyless : V1alpha1.KeylessRef V1alpha1.KeyRef) :
    KeylessRef where
  url := keyless.url
  identities := keyless.identities.getD []
  caCert := keyless.caCert.map convertKeyRefV1Alpha1ToWebhook

/-- `convertAuthorityV1Alpha1ToWebhook`. -/
def convertAuthorityV1Alpha1ToWebhook (authority : V1alpha1.Authority V1alpha1.KeyRef) :
    Authority where
  key := authority.key.map convertKeyRefV1Alpha1ToWebhook
  keyless := authority.keyless.map convertKeylessRefV1Alpha1ToWebhook
  sources := authority.sources
  ctlog := authority.ctlog
  remoteOpts := []

/-- `ConvertClusterImagePolicyV1alpha1ToWebhook`. -/
def convertClusterImagePolicyV1alpha1ToWebhook
    (policy : V1alpha1.ClusterImagePolicy V1alpha1.KeyRef) : ConvertedPolicy where
  images := policy.images
  authorities := policy.authorities.map convertAuthorityV1Alpha1ToWebhook

/-- JSON of an image pattern. -/
def ImagePattern.json (image : ImagePattern) : Json :=
  .struct [("glob", Json.omitString image.glob), ("regex", Json.omitString image.regex)]

/-- JSON of an identity. -/
def identityJson (identity : Identity) : Json :=
  .struct [("issuer", Json.omitString identity.issuer),
    ("subject", Json.omitString identity.subject)]

/-- JSON of a source. -/
def Source.json (source : Source) : Json := .struct [("oci", Json.omitString source.oci)]

/-- JSON of a URL: its text. -/
def Url.json (url : Url) : Json := .str url.string

/-- JSON of a transparency log. -/
def TLog.json (tlog : TLog) : Json := .struct [("url", tlog.url.map Url.json)]

/-- JSON of a key reference: the public keys have no tag. -/
def KeyRef.json (keyRef : KeyRef) : Json := .struct [("data", Json.omitString keyRef.data)]

/-- JSON of a keyless authority. -/
def KeylessRef.json (keyless : KeylessRef) : Json :=
  .struct [("url", keyless.url.map Url.json),
    ("identities", Json.omitSlice identityJson keyless.identities),
    ("ca-cert", keyless.caCert.map KeyRef.json)]

/-- JSON of an authority: the remote options have no tag. -/
def Authority.json (authority : Authority) : Json :=
  .struct [("key", authority.key.map KeyRef.json),
    ("keyless", authority.keyless.map KeylessRef.json),
    ("source", Json.omitSlice Source.json authority.sources),
    ("ctlog", authority.ctlog.map TLog.json)]

/-- JSON of a slice without the option `omitempty`: a nil slice is null. -/
def sliceJson {α : Type} (write : α → Json) : Option (List α) → Json
  | some values => .arr (values.map write)
  | none => .null

/-- JSON of a policy. -/
def ConvertedPolicy.json (policy : ConvertedPolicy) : Json :=
  .struct [("images", some (sliceJson ImagePattern.json policy.images)),
    ("authorities", some (sliceJson Authority.json (some policy.authorities)))]

/-- `marshal`: these types have no value that `json.Marshal` refuses. -/
def marshal (spec : ConvertedPolicy) : String := goString (Json.marshal spec.json)

end Cosign.Webhook
