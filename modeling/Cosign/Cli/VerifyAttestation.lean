import Cosign.Policy.Attestation
import Cosign.Policy.Engines
import Cosign.Verify.Entity

/-!
# The verify-attestation command

`VerifyAttestationCommand.Exec` verifies the attestations of each image and gives those of the
requested predicate type to the policies. The list of policy errors alone decides. What is printed
is left out.
-/
namespace Cosign.Cli

open Cosign.Go Cosign.Encoding Cosign.Oci Cosign.Verify Cosign.Policy

/-- `VerifyAttestationCommand`. -/
structure VerifyAttestationCommand where
  /-- Check that the statement is about the image. -/
  checkClaims : Bool := true
  /-- Reference of the public key. -/
  keyRef : String := ""
  /-- Reference of the certificate. -/
  certRef : String := ""
  /-- Email expected in the certificate. -/
  certEmail : String := ""
  /-- OIDC issuer expected in the certificate. -/
  certOidcIssuer : String := ""
  /-- Reference of the certificate chain. -/
  certChain : String := ""
  /-- Require an embedded SCT. -/
  enforceSCT : Bool := false
  /-- Use a hardware security key. -/
  sk : Bool := false
  /-- Slot of the security key. -/
  slot : String := ""
  /-- URL of the Rekor server. -/
  rekorURL : String := ""
  /-- Name of the requested predicate type. -/
  predicateType : String := predicateCustom
  /-- Policy files. -/
  policies : List String := []
  /-- The images are layouts on disk. -/
  localImage : Bool := false
  deriving DecidableEq, Repr

/-- What the command calls outside the modelled packages. -/
structure Env where
  /-- The platform of verification. -/
  platform : Platform
  /-- Where the images come from. -/
  registry : Registry
  /-- The statement types. -/
  codec : StatementCodec
  /-- The policy engines. -/
  engines : Engines
  /-- `RegistryOptions.ClientOpts`. -/
  clientOpts : Except GoError (List RemoteOption)
  newRekorClient : String → Except GoError RekorClient
  /-- `fulcio.GetRoots`. -/
  fulcioRoots : CertPool
  /-- `sigs.PublicKeyFromKeyRef`. -/
  publicKeyFromKeyRef : String → Except GoError Verifier
  /-- `pivkey.GetKeyWithSlot` and the `Verifier()` of the key. -/
  getKeyWithSlot : String → Except GoError (Except GoError Verifier)
  loadCertFromFileOrURL : String → Except GoError Certificate
  loadCertChainFromFileOrURL : String → Except GoError (List Certificate)

/-- `strconv.ParseBool`. -/
def parseBool (text : String) : Option Bool :=
  if text ∈ ["1", "t", "T", "TRUE", "true", "True"] then some true
  else if text ∈ ["0", "f", "F", "FALSE", "false", "False"] then some false
  else none

/-- `ExperimentalEnv`. -/
def experimentalEnv : String := "COSIGN_EXPERIMENTAL"

/-- `EnableExperimental`. -/
def enableExperimental (p : Platform) : Bool := (parseBool (p.getenv experimentalEnv)).getD false

/-- `OneOf`, by which of the arguments are not zero. -/
def oneOf (args : List Bool) : Bool := args.count true == 1

/-- `flag.ErrHelp`. -/
def errHelp : GoError := ⟨"flag: help requested"⟩

/-- `PubKeyParseError`. -/
def pubKeyParseError : GoError :=
  ⟨"exactly one of: key reference (--key), certificate (--cert) or hardware token (--sk) must " ++
    "be provided"⟩

/-- An error of a call, wrapped. -/
def wrapping {α : Type} (message : String) (call : Except GoError α) : Except GoError α :=
  call.mapError fun err => err.wrap message

/-- The options before the keys are looked at. -/
def baseOpts (env : Env) (c : VerifyAttestationCommand) : Except GoError CheckOpts := do
  let ociremoteOpts ← wrapping "constructing client options" env.clientOpts
  let co : CheckOpts := {
    registryClientOpts := ociremoteOpts
    certEmail := c.certEmail
    certOidcIssuer := c.certOidcIssuer
    enforceSCT := c.enforceSCT
    claimVerifier := if c.checkClaims then some intotoSubjectClaimVerifier else none }
  if enableExperimental env.platform then
    let rekorClient ←
      if c.rekorURL ≠ "" then
        (wrapping "creating Rekor client" (env.newRekorClient c.rekorURL)).map some
      else .ok none
    .ok { co with rekorClient, rootCerts := some env.fulcioRoots }
  else .ok co

/-- The options with the verifier of the key, the token or the certificate. -/
def checkOpts (env : Env) (c : VerifyAttestationCommand) : Except GoError CheckOpts := do
  let co ← baseOpts env c
  if c.keyRef ≠ "" then
    let verifier ← wrapping "loading public key" (env.publicKeyFromKeyRef c.keyRef)
    .ok { co with sigVerifier := some verifier }
  else if c.sk then
    let key ← wrapping "opening piv token" (env.getKeyWithSlot c.slot)
    let verifier ← wrapping "initializing piv token verifier" key
    .ok { co with sigVerifier := some verifier }
  else if c.certRef ≠ "" then
    let cert ← wrapping "loading certificate from reference" (env.loadCertFromFileOrURL c.certRef)
    if c.certChain = "" then
      let verifier ← wrapping "creating certificate verifier"
        (env.platform.loadVerifier cert.publicKey)
      .ok { co with sigVerifier := some verifier }
    else
      let chain ← env.loadCertChainFromFileOrURL c.certChain
      let (co, verifier) := validateAndUnpackCertWithChain env.platform cert chain co
      let verifier ← wrapping "creating certificate verifier" verifier
      .ok { co with sigVerifier := some verifier }
  else .ok co

/-- The rest of a path after its last dot, that dot included, read from the end. -/
def extension : List Char → List Char → List Char
  | [], _ => []
  | char :: rest, found =>
    if char = '/' then []
    else if char = '.' then '.' :: found
    else extension rest (char :: found)

/-- `filepath.Ext`. -/
def filepathExt (path : String) : String := String.ofList (extension (runes path).reverse [])

/-- The CUE and the Rego policies. -/
def splitPolicies : List String → Except GoError (List String × List String)
  | [] => .ok ([], [])
  | policy :: rest =>
    if filepathExt policy = ".rego" then
      (splitPolicies rest).map fun (cuePolicies, regoPolicies) =>
        (cuePolicies, policy :: regoPolicies)
    else if filepathExt policy = ".cue" then
      (splitPolicies rest).map fun (cuePolicies, regoPolicies) =>
        (policy :: cuePolicies, regoPolicies)
    else .error ⟨"invalid policy format, expected .cue or .rego"⟩

/-- The errors of the policies on one payload. -/
def policyErrors (engines : Engines) (cuePolicies regoPolicies : List String)
    (payload : Bytes) : List GoError :=
  (if 0 < cuePolicies.length then (cueValidateJSON engines payload cuePolicies).toList else []) ++
    if 0 < regoPolicies.length then regoValidateJSON engines payload regoPolicies else []

/-- The loop over the verified attestations: those of another predicate type are skipped. -/
def validationErrors (env : Env) (predicateType : String)
    (cuePolicies regoPolicies : List String) :
    List Signature → Call (Except GoError (List GoError))
  | [] => .ok (.ok [])
  | vp :: rest => do
    match ← attestationToPayloadJSON env.codec predicateType vp with
    | .error err => .ok (.error (err.wrap "converting to consumable policy validation"))
    | .ok payload =>
      let errs :=
        if payload.length = 0 then []
        else policyErrors env.engines cuePolicies regoPolicies payload
      match ← validationErrors env predicateType cuePolicies regoPolicies rest with
      | .error err => .ok (.error err)
      | .ok more => .ok (.ok (errs ++ more))

/-- The verified attestations of an image. -/
def verifiedAttestations (env : Env) (c : VerifyAttestationCommand) (co : CheckOpts)
    (imageRef : String) : Call Outcome :=
  if c.localImage then verifyLocalImageAttestations env.platform env.registry imageRef co
  else match env.registry.parseReference imageRef with
    | .error err => .ok (.failed co err)
    | .ok ref => verifyImageAttestationsOf env.platform env.registry ref co

/-- The checks of one image: the options afterwards and the error. -/
def execImage (env : Env) (c : VerifyAttestationCommand) (co : CheckOpts) (imageRef : String) :
    Call (CheckOpts × Option GoError) := do
  let (co, verified, _, err) ← verifiedAttestations env c co imageRef
  match err with
  | some err => .ok (co, some err)
  | none =>
    match splitPolicies c.policies with
    | .error err => .ok (co, some err)
    | .ok (cuePolicies, regoPolicies) => do
      match ← validationErrors env c.predicateType cuePolicies regoPolicies verified with
      | .error err => .ok (co, some err)
      | .ok errs =>
        if 0 < errs.length then
          .ok (co, some ⟨toString errs.length ++ " validation errors occurred"⟩)
        else .ok (co, none)

/-- The loop over the images, which stops at the first error. -/
def execImages (env : Env) (c : VerifyAttestationCommand) :
    CheckOpts → List String → Call (Option GoError)
  | _, [] => .ok none
  | co, imageRef :: rest => do
    let (co, err) ← execImage env c co imageRef
    match err with
    | some err => .ok (some err)
    | none => execImages env c co rest

/-- `VerifyAttestationCommand.Exec`. -/
def exec (env : Env) (c : VerifyAttestationCommand) (images : List String) :
    Call (Option GoError) :=
  if images.length = 0 then .ok (some errHelp)
  else if !oneOf [c.keyRef ≠ "", c.sk, c.certRef ≠ ""] && !enableExperimental env.platform then
    .ok (some pubKeyParseError)
  else match checkOpts env c with
    | .error err => .ok (some err)
    | .ok co => execImages env c co images

end Cosign.Cli
