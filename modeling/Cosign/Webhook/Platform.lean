import Cosign.Verify.Platform

/-!
# What the admission webhook calls outside the repository

References, keychains and URLs are values of libraries; the functions that make them, the clients of
Fulcio and Rekor and the conversion of YAML are collected in `WebhookPlatform`. Field errors are
those of the Kubernetes API machinery.
-/
namespace Cosign.Webhook

open Cosign.Go Cosign.Encoding Cosign.Oci Cosign.Verify

/-- One `apis.FieldError` without nested errors. It has a path, so `Also` never drops it as
empty. -/
structure FieldError where
  /-- Text of the error. -/
  message : String
  /-- Paths of the fields. -/
  paths : List String
  /-- Further text. -/
  details : String
  /-- The error is about some field. -/
  located : paths ≠ []
  deriving DecidableEq, Repr

/-- A `*apis.FieldError` with everything nested in it; nil is the empty list. -/
abbrev FieldErrors : Type := List FieldError

/-- `apis.CurrentField`. -/
def currentField : String := ""

/-- `apis.ErrGeneric` of one field. -/
def errGeneric (diagnostic fieldPath : String) : FieldError :=
  ⟨diagnostic, [fieldPath], "", List.cons_ne_nil _ _⟩

/-- `apis.ErrInvalidValue` without details. -/
def errInvalidValue (value fieldPath : String) : FieldError :=
  ⟨"invalid value: " ++ value, [fieldPath], "", List.cons_ne_nil _ _⟩

/-- `errs.Also(others)`. -/
def FieldErrors.also (errs others : FieldErrors) : FieldErrors := errs ++ others

/-- A part of a path is an index, such as `[0]`. -/
def isIndex (part : List Char) : Bool := part.head? == some '[' && part.getLast? == some ']'

/-- One part after the parts of a path: the current field is skipped, and an index belongs to
the part before it. -/
def flattenPart (path : List (List Char)) (part : List Char) : List (List Char) :=
  if part = [] then path
  else match path.getLast? with
    | some last => if isIndex part then path.dropLast ++ [last ++ part] else path ++ [part]
    | none => [part]

/-- `flatten`: the path of a field below a prefix. -/
def flatten (path : List String) : String :=
  let parts := (path.flatMap fun part => (runes part).splitOn '.').foldl flattenPart []
  String.ofList (List.intercalate ['.'] parts)

/-- `fe.ViaField(prefix)` of one error. -/
def FieldError.viaField (err : FieldError) (above : String) : FieldError :=
  { err with
    paths := err.paths.map fun path => flatten [above, path]
    located := by simpa using err.located }

/-- `fe.ViaFieldIndex(field, index)` of one error. -/
def FieldError.viaFieldIndex (err : FieldError) (field : String) (index : Nat) : FieldError :=
  (err.viaField ("[" ++ toString index ++ "]")).viaField field

/-- `fe.ViaField(prefix)`. -/
def FieldErrors.viaField (errs : FieldErrors) (above : String) : FieldErrors :=
  errs.map fun err => err.viaField above

/-- An `apis.URL`, by its `String()`; the zero value prints as the empty text. -/
structure Url where
  /-- The printed URL. -/
  string : String
  deriving DecidableEq, Repr

/-- A `name.Reference`: a `name.Tag` or a `name.Digest`, by its fully qualified name. -/
inductive Reference where
  /-- A name with a tag, which can move. -/
  | tag (name : String)
  | digest (name : String)
  deriving DecidableEq, Repr

/-- `ref.Name()`. -/
def Reference.name : Reference → String
  | .tag name => name
  | .digest name => name

/-- `k8schain.Options`. -/
structure KeychainOptions where
  /-- Namespace of the workload. -/
  namespaceName : String
  serviceAccountName : String
  /-- Names of its image pull secrets. -/
  imagePullSecrets : List String
  deriving DecidableEq, Repr

/-- Functions that the webhook calls and the repository does not define. -/
structure WebhookPlatform extends Platform where
  /-- The verb `%q` on a text. -/
  quote : String → String
  /-- `yaml.YAMLToJSON`. -/
  yamlToJSON : Bytes → Except GoError Bytes
  /-- `url.Parse` of a text that is not empty. -/
  parseURL : String → Except GoError Url
  /-- `name.NewRepository`. -/
  newRepository : String → Except GoError Repository
  /-- `name.ParseReference`. -/
  parseReference : String → Except GoError Reference
  /-- `k8schain.New`. -/
  newKeychain : KeychainOptions → Except GoError Keychain
  /-- `RootCert` of a client of Fulcio, by the chain in its answer. -/
  rootCert : Url → Except GoError Bytes
  /-- The certificates that `AppendCertsFromPEM` finds in a text and can parse. -/
  certsInPEM : Bytes → List Certificate
  getRekorClient : String → Except GoError RekorClient
  /-- `fulcioroots.Get`, which panics when the roots cannot be initialised. -/
  fulcioRoots : Call CertPool

end Cosign.Webhook
