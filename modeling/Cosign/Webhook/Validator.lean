import Cosign.Verify.Claims
import Cosign.Webhook.Policy

/-!
# The validating admission webhook

A pod is admitted when no container yields a field error. A container whose image matches policies
is decided by them alone; otherwise the keys of a secret, or Fulcio when it has none, decide.
Verification is a package variable of the source, `cosignVerifySignatures`: an oracle that panics,
fails or returns some signatures.
-/
namespace Cosign.Webhook

open Cosign.Go Cosign.Encoding Cosign.Oci Cosign.Verify

/-- `cosignVerifySignatures`. Without an error it returns at least one signature. -/
structure SignatureOracle where
  /-- The signatures of an image that verify under some options. -/
  verify : Reference → CheckOpts → Call (Except GoError (List Signature))
  /-- No signatures is an error. -/
  nonempty : ∀ ref co sigs, verify ref co = .ok (.ok sigs) → sigs ≠ []

section

variable (p : WebhookPlatform) (oracle : SignatureOracle)

/-- `parsePems`. -/
def parsePems (b : Bytes) : List Bytes :=
  match _decoded : p.pemDecoder.decode b with
  | none => []
  | some (block, rest) => block :: parsePems rest
  termination_by b.length
  decreasing_by exact p.pemDecoder.shorter _ _ _ _decoded

/-- One block of `getKeys`: the keys, a slice that may be nil, and the errors. -/
def getKeysStep (state : Option (List PublicKey) × List GoError) (block : Bytes) :
    Option (List PublicKey) × List GoError :=
  match p.parsePKIXPublicKey block with
  | .error err => (state.1, state.2 ++ [err])
  | .ok key => (some (state.1.getD [] ++ [key]), state.2)

/-- `getKeys`: the keys start as an empty slice, which is not nil. -/
def getKeys (cfg : GoMap Bytes) : Except FieldError (List PublicKey) :=
  let pems := parsePems p ((cfg.lookup "cosign.pub").getD [])
  let (keys, errs) := pems.foldl (getKeysStep p) (some [], [])
  match keys with
  | none => .error (errGeneric ("malformed cosign.pub: [" ++
      String.intercalate " " (errs.map (·.message)) ++ "]") currentField)
  | some keys => .ok keys

/-- Options of `validSignatures`. -/
def keyOpts (verifier : Verifier) (opts : List RemoteOption) : CheckOpts where
  registryClientOpts := opts
  sigVerifier := some verifier
  claimVerifier := some simpleClaimVerifier

/-- `validSignatures`. -/
def validSignatures (ref : Reference) (verifier : Verifier) (opts : List RemoteOption) :
    Call (Except GoError (List Signature)) :=
  oracle.verify ref (keyOpts verifier opts)

/-- Options of `validSignaturesWithFulcio`. -/
def fulcioOpts (fulcioRoots : CertPool) (rekorClient : Option RekorClient)
    (identities : List Identity) (opts : List RemoteOption) : CheckOpts where
  registryClientOpts := opts
  rootCerts := some fulcioRoots
  rekorClient := rekorClient
  claimVerifier := some simpleClaimVerifier
  identities := identities

/-- `validSignaturesWithFulcio`. -/
def validSignaturesWithFulcio (ref : Reference) (fulcioRoots : CertPool)
    (rekorClient : Option RekorClient) (identities : List Identity)
    (opts : List RemoteOption) : Call (Except GoError (List Signature)) :=
  oracle.verify ref (fulcioOpts fulcioRoots rekorClient identities opts)

/-- The loop of `valid` over keys: the signatures of the first key that has some, or the last
error. -/
def validKeys (ref : Reference) (opts : List RemoteOption) :
    Option GoError → List PublicKey → Call (List Signature × Option GoError)
  | lastErr, [] => .ok ([], lastErr)
  | lastErr, k :: rest =>
    match p.loadVerifier k with
    | .error err => validKeys ref opts (some err) rest
    | .ok verifier => do
      match ← validSignatures oracle ref verifier opts with
      | .error err => validKeys ref opts (some err) rest
      | .ok sps => if 0 < sps.length then .ok (sps, none) else validKeys ref opts lastErr rest

/-- `valid`: by any of the keys or, when there are none, by the roots of Fulcio. -/
def valid (ref : Reference) (keys : List PublicKey) (opts : List RemoteOption) :
    Call (List Signature × Option GoError) :=
  if keys.length = 0 then do
    let roots ← p.fulcioRoots
    match ← validSignaturesWithFulcio oracle ref roots none [] opts with
    | .error err => .ok ([], some err)
    | .ok sps =>
      if 0 < sps.length then .ok (sps, none)
      else .ok ([], some ⟨"no valid signatures were found"⟩)
  else validKeys p oracle ref opts none keys

/-- `getFulcioCert`: the roots that Fulcio serves. -/
def getFulcioCert (u : Url) : Except GoError CertPool :=
  match p.rootCert u with
  | .error err => .error (err.wrap "getting root cert")
  | .ok chainPEM =>
    match p.certsInPEM chainPEM with
    | [] => .error ⟨"error appending to root cert pool"⟩
    | certs => .ok (certs.foldl CertPool.addCert CertPool.empty)

/-- The log an authority names, if it names one. -/
def authorityRekorClient (authority : Authority) : Except GoError (Option RekorClient) :=
  match authority.ctlog.bind TLog.url with
  | none => .ok none
  | some url => (p.getRekorClient url.string).map some

/-- What an authority contributes to `ValidatePolicy`. -/
inductive AuthorityOutcome where
  /-- No case of the switch checks anything. -/
  | skipped
  /-- An error is added. -/
  | failed (err : GoError)
  /-- The function returns these signatures. -/
  | passed (sigs : List Signature)

/-- The end of both cases: signatures are a success, none are an error. -/
def signaturesOutcome (ref : Reference) (sps : List Signature) : AuthorityOutcome :=
  if 0 < sps.length then .passed sps
  else .failed ⟨"no valid signatures found for " ++ ref.name⟩

/-- The case of a keyless authority with a URL. -/
def checkKeyless (ref : Reference) (authority : Authority) (keyless : KeylessRef) (url : Url)
    (opts : List RemoteOption) : Call AuthorityOutcome :=
  match getFulcioCert p url with
  | .error err => .ok (.failed (err.wrap "fetching FulcioRoot"))
  | .ok fulcioroot =>
    match authorityRekorClient p authority with
    | .error err => .ok (.failed (err.wrap "creating Rekor client"))
    | .ok rekorClient => do
      match ← validSignaturesWithFulcio oracle ref fulcioroot rekorClient keyless.identities
          opts with
      | .error err => .ok (.failed (err.wrap "validate signatures with fulcio"))
      | .ok sps => .ok (signaturesOutcome ref sps)

/-- The public keys of an authority; a nil key has none. -/
def Authority.publicKeys (authority : Authority) : List PublicKey :=
  (authority.key.map KeyRef.publicKeys).getD []

/-- The switch of `ValidatePolicy`; it has no default case, and a keyless authority without a
URL falls through its case. -/
def checkAuthority (ref : Reference) (opts : List RemoteOption) (authority : Authority) :
    Call AuthorityOutcome :=
  if 0 < authority.publicKeys.length then do
    match ← valid p oracle ref authority.publicKeys opts with
    | (_, some err) => .ok (.failed (err.wrap "failed to validate keys"))
    | (sps, none) => .ok (signaturesOutcome ref sps)
  else match authority.keyless with
    | none => .ok .skipped
    | some keyless =>
      match keyless.url with
      | none => .ok .skipped
      | some url => checkKeyless p oracle ref authority keyless url opts

/-- The loop of `ValidatePolicy` with the errors so far. -/
def validateAuthorities (ref : Reference) (remoteOpts : List RemoteOption) :
    List GoError → List Authority → Call (List Signature × List GoError)
  | authorityErrors, [] => .ok ([], authorityErrors)
  | authorityErrors, authority :: rest => do
    match ← checkAuthority p oracle ref (remoteOpts ++ authority.remoteOpts) authority with
    | .skipped => validateAuthorities ref remoteOpts authorityErrors rest
    | .failed err => validateAuthorities ref remoteOpts (authorityErrors ++ [err]) rest
    | .passed sps => .ok (sps, [])

/-- `ValidatePolicy`, called without remote options. -/
def validatePolicy (ref : Reference) (kc : Keychain) (authorities : List Authority) :
    Call (List Signature × List GoError) :=
  validateAuthorities p oracle ref [.authFromKeychain kc] [] authorities

/-- The two maps of `validatePolicies`: validated signatures, and errors. -/
abbrev PolicyMaps : Type := GoMap (List Signature) × GoMap (List GoError)

/-- One policy of `validatePolicies`. The errors appended are those of a slice that nothing
writes, so only the key of a failing policy is recorded. -/
def validatePoliciesStep (ref : Reference) (kc : Keychain) (maps : PolicyMaps)
    (entry : Sigma fun _ : String => List Authority) : Call PolicyMaps := do
  let (sigs, errs) ← validatePolicy p oracle ref kc entry.2
  if 0 < errs.length then .ok (maps.1, maps.2.appendAt entry.1 [])
  else .ok (maps.1.appendAt entry.1 sigs, maps.2)

/-- `validatePolicies`. -/
def validatePolicies (ref : Reference) (kc : Keychain) (policies : GoMap (List Authority)) :
    Call PolicyMaps :=
  policies.entries.foldlM (validatePoliciesStep p oracle ref kc) (∅, ∅)

/-- The fields of a container that are read. -/
structure Container where
  /-- Reference of the image. -/
  image : String
  deriving DecidableEq, Repr

/-- The fields of a `corev1.PodSpec` that are read. -/
structure PodSpec where
  /-- Containers that run before the others. -/
  initContainers : List Container
  containers : List Container
  /-- Service account for pulling images. -/
  serviceAccountName : String
  /-- Names of the image pull secrets. -/
  imagePullSecrets : List String
  deriving DecidableEq, Repr

/-- `config.Config`, which the context of a request may carry. -/
structure Config where
  /-- The policies; the pointer may be nil. -/
  imagePolicyConfig : Option ImagePolicyConfig

/-- A field error about the image of a container, with the image as its details. -/
def imageError (field : String) (i : Nat) (c : Container) (text : String) : FieldError :=
  { (errGeneric text "image").viaFieldIndex field i with details := c.image }

/-- The check that predates policies. -/
def checkTraditional (kc : Keychain) (keys : List PublicKey) (field : String) (i : Nat)
    (c : Container) (ref : Reference) : Call FieldErrors := do
  match ← valid p oracle ref keys [.authFromKeychain kc] with
  | (_, some err) => .ok [imageError field i c err.message]
  | (_, none) => .ok []

/-- The check of an image that matches at least one policy. -/
def checkPolicies (kc : Keychain) (field : String) (i : Nat) (c : Container) (ref : Reference)
    (policies : GoMap (List Authority)) : Call FieldErrors := do
  let (signatures, fieldErrors) ← validatePolicies p oracle ref kc policies
  if signatures.len ≠ policies.len then
    .ok (fieldErrors.keys.map fun failingPolicy =>
      imageError field i c ("failed policy: " ++ failingPolicy))
  else .ok []

/-- The body of `checkContainers` for a digest reference. -/
def checkDigest (config : Option Config) (kc : Keychain) (keys : List PublicKey)
    (field : String) (i : Nat) (c : Container) (ref : Reference) : Call FieldErrors :=
  match config with
  | none => checkTraditional p oracle kc keys field i c ref
  | some config =>
    match getMatchingPolicies p config.imagePolicyConfig ref.name with
    | (_, some err) => .ok [imageError field i c err.message]
    | (policies, none) =>
      if 0 < policies.len then checkPolicies p oracle kc field i c ref policies
      else checkTraditional p oracle kc keys field i c ref

/-- The body of `checkContainers`: the errors that one container adds. -/
def checkContainer (config : Option Config) (kc : Keychain) (keys : List PublicKey)
    (field : String) (c : Container) (i : Nat) : Call FieldErrors :=
  match p.parseReference c.image with
  | .error err => .ok [(errGeneric err.message "image").viaFieldIndex field i]
  | .ok (.tag _) => .ok
      [(errInvalidValue (c.image ++ " must be an image digest") "image").viaFieldIndex field i]
  | .ok (.digest name) => checkDigest p oracle config kc keys field i c (.digest name)

/-- The closure `checkContainers`, with the errors so far. -/
def checkContainers (config : Option Config) (kc : Keychain) (keys : List PublicKey)
    (errs : FieldErrors) (cs : List Container) (field : String) : Call FieldErrors :=
  cs.zipIdx.foldlM (fun errs (c, i) => do
    let found ← checkContainer p oracle config kc keys field c i
    .ok (errs.also found)) errs

/-- `validatePodSpec`, with what the lister returns for the secret. -/
def validatePodSpec (config : Option Config) (secret : Except GoError (GoMap Bytes))
    (ps : PodSpec) (opt : KeychainOptions) : Call FieldErrors :=
  match p.newKeychain opt with
  | .error err => .ok [errGeneric err.message currentField]
  | .ok kc =>
    match secret with
    | .error err => .ok [errGeneric err.message currentField]
    | .ok data =>
      match getKeys p data with
      | .error kerr => .ok [kerr]
      | .ok keys => do
        let errs ← checkContainers p oracle config kc keys [] ps.initContainers "initContainers"
        checkContainers p oracle config kc keys errs ps.containers "containers"

/-- A workload with a pod specification, at some path of the object. -/
structure Workload where
  /-- Whether the object is being deleted. -/
  deleting : Bool
  /-- Namespace of the object. -/
  namespaceName : String
  /-- The pod specification. -/
  spec : PodSpec

/-- What `ValidatePodSpecable`, `ValidatePod` and `ValidateCronJob` share: an object that is
being deleted is not checked. -/
def validateWorkload (path : String) (config : Option Config)
    (secret : Except GoError (GoMap Bytes)) (object : Workload) : Call FieldErrors :=
  if object.deleting then .ok []
  else do
    let errs ← validatePodSpec p oracle config secret object.spec
      ⟨object.namespaceName, object.spec.serviceAccountName, object.spec.imagePullSecrets⟩
    .ok (errs.viaField path)

/-- `ValidatePodSpecable`. -/
def validatePodSpecable := validateWorkload p oracle "spec.template.spec"

/-- `ValidatePod`. -/
def validatePod := validateWorkload p oracle "spec"

/-- `ValidateCronJob`. -/
def validateCronJob := validateWorkload p oracle "spec.jobTemplate.spec.template.spec"

end

end Cosign.Webhook
