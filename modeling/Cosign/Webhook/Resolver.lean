import Cosign.Webhook.Validator

/-!
# The mutating webhook

Before a workload is validated, the mutating webhook replaces the tags of its images by the digests
that the registry has for them. A tag can move between two requests, so every call has a registry of
its own.
-/
namespace Cosign.Webhook

open Cosign.Go
open Cosign.Verify (Keychain)

/-- A registry at the time of a request, as far as digests of tags are concerned. -/
structure TagRegistry (p : WebhookPlatform) where
  /-- `remoteGet` of a tag, by the name that the digest of the descriptor has in the repository. -/
  digestOf : Keychain → String → Except GoError String
  digests : ∀ kc tag name, digestOf kc tag = .ok name → p.parseReference name = .ok (.digest name)

/-- What `apis.IsInCreate` and `apis.IsInUpdate` find in the context of a request. -/
structure RequestContext where
  /-- An object is created. -/
  inCreate : Bool
  /-- An object is updated. -/
  inUpdate : Bool
  deriving DecidableEq, Repr

section

variable (p : WebhookPlatform) (registry : TagRegistry p) (ctx : RequestContext)

/-- `ResolveDigest` of the reference that a text parses to, by what the digest prints as: a digest
that was parsed prints as the text. -/
def resolveDigest (kc : Keychain) (text : String) : Reference → Except GoError String
  | .digest _ => .ok text
  | .tag name => registry.digestOf kc name

/-- The body of `resolveContainers`. -/
def resolveContainer (kc : Keychain) (c : Container) : Container :=
  match p.parseReference c.image with
  | .error _ => c
  | .ok ref =>
    if ctx.inCreate || ctx.inUpdate then
      match resolveDigest p registry kc c.image ref with
      | .error _ => c
      | .ok digest => { c with image := digest }
    else c

/-- `resolvePodSpec`. -/
def resolvePodSpec (ps : PodSpec) (opt : KeychainOptions) : PodSpec :=
  match p.newKeychain opt with
  | .error _ => ps
  | .ok kc =>
    { ps with
      initContainers := ps.initContainers.map (resolveContainer p registry ctx kc)
      containers := ps.containers.map (resolveContainer p registry ctx kc) }

/-- What `ResolvePodSpecable`, `ResolvePod` and `ResolveCronJob` share: an object that is being
deleted is left alone. -/
def resolveWorkload (object : Workload) : Workload :=
  if object.deleting then object
  else
    { object with
      spec := resolvePodSpec p registry ctx object.spec
        ⟨object.namespaceName, object.spec.serviceAccountName, object.spec.imagePullSecrets⟩ }

/-- `ResolvePodSpecable`. -/
def resolvePodSpecable := resolveWorkload p registry ctx

/-- `ResolvePod`. -/
def resolvePod := resolveWorkload p registry ctx

/-- `ResolveCronJob`. -/
def resolveCronJob := resolveWorkload p registry ctx

end

/-- An object after calls of the mutating webhook, one after another, each with a registry of its
own. -/
def resolveAll (p : WebhookPlatform) (ctx : RequestContext) (registries : List (TagRegistry p))
    (object : Workload) : Workload :=
  registries.foldl (fun object registry => resolveWorkload p registry ctx object) object

end Cosign.Webhook
