import Cosign.Webhook.Policy

/-!
# The policy resource and its validation

`v1alpha1.ClusterImagePolicy` as users write it. Its authorities refer to keys through pointers, so
the types have the representation of a key reference as a parameter. Validation looks at every field
but not at the certificate of a keyless authority, and of a source it only asks that it is not
empty.
-/
namespace Cosign.Utils

open Cosign.Encoding Cosign.Webhook

/-- `utils.parsePEMKey`, which validation calls: the blocks of a text, and whether nothing but
blocks was found. -/
def parsePEMKey (p : WebhookPlatform) (b : Bytes) : List Bytes × Bool :=
  match _decoded : p.pemDecoder.decode b with
  | none => ([], false)
  | some (pemKey, rest) =>
    if 0 < rest.length then
      let (list, check) := parsePEMKey p rest
      (pemKey :: list, check)
    else ([pemKey], true)
  termination_by b.length
  decreasing_by exact p.pemDecoder.shorter _ _ _ _decoded

end Cosign.Utils

namespace Cosign.V1alpha1

open Cosign.Go Cosign.Encoding Cosign.Verify Cosign.Webhook

/-- `v1alpha1.KeyRef`. -/
structure KeyRef where
  /-- Name of the secret that holds the key, if one is given. -/
  secretRef : Option String
  /-- The inline public key. -/
  data : String
  /-- The address of the key in a key management service. -/
  kms : String
  deriving DecidableEq, Repr

/-- `v1alpha1.KeylessRef`. -/
structure KeylessRef (κ : Type) where
  /-- Address of Fulcio. -/
  url : Option Url
  /-- Identities of which one has to match; the slice can be nil. -/
  identities : Option (List Identity)
  /-- Certificate of the authority. -/
  caCert : Option κ
  deriving DecidableEq, Repr

/-- `v1alpha1.Authority`. -/
structure Authority (κ : Type) where
  /-- Verification by key. -/
  key : Option κ
  /-- Verification by certificate. -/
  keyless : Option (KeylessRef κ)
  /-- Where signatures are stored. -/
  sources : List Source
  /-- Transparency log to consult. -/
  ctlog : Option TLog
  deriving DecidableEq, Repr

/-- The characters of a DNS subdomain. -/
def isSubdomainChar (char : Char) : Bool :=
  char.isLower || char.isDigit || char == '-' || char == '.'

/-- The name of a resource: the API server takes only DNS subdomains. -/
structure ObjectName where
  /-- The name. -/
  text : String
  /-- It is a DNS subdomain. -/
  subdomain : text.toList.all isSubdomainChar = true
  deriving DecidableEq, Repr

/-- `v1alpha1.ClusterImagePolicy`. -/
structure ClusterImagePolicy (κ : Type) where
  /-- Name of the resource. -/
  name : ObjectName
  /-- Patterns of the images the policy is about; the slice can be nil. -/
  images : Option (List ImagePattern)
  /-- Authorities of which one has to be satisfied. -/
  authorities : List (Authority κ)
  deriving DecidableEq, Repr

section

variable {κ κ' : Type}

/-- A keyless authority with another representation of keys. -/
def KeylessRef.map (change : κ → κ') (keyless : KeylessRef κ) : KeylessRef κ' where
  url := keyless.url
  identities := keyless.identities
  caCert := keyless.caCert.map change

/-- An authority with another representation of keys. -/
def Authority.map (change : κ → κ') (authority : Authority κ) : Authority κ' where
  key := authority.key.map change
  keyless := authority.keyless.map (KeylessRef.map change)
  sources := authority.sources
  ctlog := authority.ctlog

/-- A policy with another representation of keys. -/
def ClusterImagePolicy.map (change : κ → κ') (policy : ClusterImagePolicy κ) :
    ClusterImagePolicy κ' where
  name := policy.name
  images := policy.images
  authorities := policy.authorities.map (Authority.map change)

end

/-- `apis.ErrMissingField`. -/
def errMissingField (fieldPath : String) : FieldError := errGeneric "missing field(s)" fieldPath

/-- `apis.ErrMissingOneOf`. -/
def errMissingOneOf (fieldPath : String) (others : List String) : FieldError :=
  ⟨"expected exactly one, got neither", fieldPath :: others, "", List.cons_ne_nil _ _⟩

/-- `apis.ErrMultipleOneOf`. -/
def errMultipleOneOf (fieldPath : String) (others : List String) : FieldError :=
  ⟨"expected exactly one, got both", fieldPath :: others, "", List.cons_ne_nil _ _⟩

/-- An error if something holds. -/
def errorIf (wrong : Bool) (err : FieldError) : FieldErrors := if wrong then [err] else []

/-- `ViaFieldIndex` for the errors of the elements of a list. -/
def viaElements {α : Type} (validate : α → FieldErrors) (field : String) (elements : List α) :
    FieldErrors :=
  elements.zipIdx.flatMap fun element =>
    (validate element.1).map fun err => err.viaFieldIndex field element.2

/-- `ValidateGlob`. -/
def validateGlob (glob : String) : FieldErrors :=
  let chars := runes glob
  match chars.count '*' with
  | 0 => []
  | 1 => errorIf (chars.getLast? != some '*')
      { errInvalidValue glob currentField with
        details := "glob match supports only * as a trailing character" }
  | _ =>
    [{ errInvalidValue glob currentField with
      details := "glob match supports only a single * as a trailing character" }]

section

variable (p : WebhookPlatform)

/-- `ValidateRegex`. -/
def validateRegex (regex : String) : FieldErrors :=
  match p.compileRegexp regex with
  | .error err =>
    [{ errInvalidValue regex currentField with details := "regex is invalid: " ++ err.message }]
  | .ok _ => []

/-- `utils.IsValidKey`: the text is made of PEM blocks, each of which is a public key. -/
def isValidKey (b : Bytes) : Bool :=
  match Utils.parsePEMKey p b with
  | (_, false) => false
  | (pems, true) => pems.all fun block => (p.parsePKIXPublicKey block).isOk

/-- `image.Validate`. -/
def validateImage (image : ImagePattern) : FieldErrors :=
  errorIf (image.regex != "" && image.glob != "") (errMultipleOneOf "regex" ["glob"]) ++
    errorIf (image.regex == "" && image.glob == "") (errMissingOneOf "regex" ["glob"]) ++
    (if image.glob ≠ "" then (validateGlob image.glob).viaField "glob" else []) ++
    (if image.regex ≠ "" then (validateRegex p image.regex).viaField "regex" else [])

/-- `key.Validate`. -/
def KeyRef.validate (key : KeyRef) : FieldErrors :=
  errorIf (key.data == "" && key.kms == "" && key.secretRef.isNone)
      (errMissingOneOf "data" ["kms", "secretref"]) ++
    if key.data ≠ "" then
      errorIf (key.kms != "" || key.secretRef.isSome)
          (errMultipleOneOf "data" ["kms", "secretref"]) ++
        errorIf (!isValidKey p (utf8Bytes key.data)) (errInvalidValue key.data "data")
    else
      errorIf (key.kms != "" && key.secretRef.isSome)
        (errMultipleOneOf "data" ["kms", "secretref"])

/-- `identity.Validate`. -/
def validateIdentity (identity : Identity) : FieldErrors :=
  errorIf (identity.issuer == "" && identity.subject == "")
      (errMissingOneOf "issuer" ["subject"]) ++
    (if identity.issuer ≠ "" then (validateRegex p identity.issuer).viaField "issuer" else []) ++
    (if identity.subject ≠ "" then (validateRegex p identity.subject).viaField "subject" else [])

/-- `keyless.Validate`: the certificate is not looked at. -/
def KeylessRef.validate {κ : Type} (keyless : KeylessRef κ) : FieldErrors :=
  errorIf (keyless.url.isNone && keyless.identities.isNone && keyless.caCert.isNone)
      (errMissingOneOf "url" ["identities", "ca-cert"]) ++
    errorIf (keyless.url.isSome && keyless.caCert.isSome) (errMultipleOneOf "url" ["ca-cert"]) ++
    errorIf (keyless.identities == some []) (errMissingField "identities") ++
    viaElements (validateIdentity p) "identities" (keyless.identities.getD [])

/-- `source.Validate`. -/
def validateSource (source : Source) : FieldErrors :=
  errorIf (source.oci == "") (errMissingField "oci")

/-- `authority.Validate`. -/
def Authority.validate (authority : Authority KeyRef) : FieldErrors :=
  errorIf (authority.key.isNone && authority.keyless.isNone) (errMissingOneOf "key" ["keyless"]) ++
    errorIf (authority.key.isSome && authority.keyless.isSome)
      (errMultipleOneOf "key" ["keyless"]) ++
    (authority.key.toList.flatMap fun key => (key.validate p).viaField "key") ++
    (authority.keyless.toList.flatMap fun keyless => (keyless.validate p).viaField "keyless") ++
    authority.sources.flatMap fun source => (validateSource source).viaField "source"

/-- `policy.Validate`. -/
def ClusterImagePolicy.validate (policy : ClusterImagePolicy KeyRef) : FieldErrors :=
  let images := policy.images.getD []
  FieldErrors.viaField
    (errorIf images.isEmpty (errMissingField "images") ++
      viaElements (validateImage p) "images" images ++
      errorIf policy.authorities.isEmpty (errMissingField "authorities") ++
      viaElements (Authority.validate p) "authorities" policy.authorities) "spec"

end

end Cosign.V1alpha1
