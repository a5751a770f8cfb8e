import Cosign.Cli.VerifyAttestation
import Cosign.Sign.Signers
import Cosign.Verify.Claims

/-!
# The verify command

`VerifyCommand.Exec` builds the options from the flags and verifies the signatures of one image
after another, each with the options that the one before has left. Of what is printed,
`PrintVerificationHeader` is modelled: one flag for the bundles and one for the certificates speak
of all signatures that follow.
-/
namespace Cosign.Cli

open Cosign.Go Cosign.Encoding Cosign.Verify Cosign.Sign
open Cosign.Oci (newSignature)

/-- The line about log entries that come with the signatures. -/
def offlineLine : String :=
  "  - Existence of the claims in the transparency log was verified offline"

/-- The lines about the claims of the signatures. -/
def claimLines (co : CheckOpts) : List String :=
  if co.claimVerifier.isSome then
    (if co.annotations.isSome then ["  - The specified annotations were verified."] else []) ++
      ["  - The cosign claims were validated"]
  else []

/-- The lines about the transparency log. -/
def logLines (co : CheckOpts) (bundleVerified : Bool) : List String :=
  if bundleVerified then [offlineLine]
  else if co.rekorClient.isSome then
    ["  - The claims were present in the transparency log",
      "  - The signatures were integrated into the transparency log when the certificate was valid"]
  else []

/-- `PrintVerificationHeader`: the lines on the error stream. -/
def printVerificationHeader (imgRef : String) (co : CheckOpts)
    (bundleVerified fulcioVerified : Bool) : List String :=
  ["", "Verification for " ++ imgRef ++ " --",
    "The following checks were performed on each of these signatures:"] ++
  claimLines co ++ logLines co bundleVerified ++
  (if co.sigVerifier.isSome then
    ["  - The signatures were verified against the specified public key"] else []) ++
  if fulcioVerified then ["  - Any certificates were verified against the Fulcio roots."] else []

/-- `VerifyCommand`. -/
structure VerifyCommand where
  /-- Check that the payload is about the image. -/
  checkClaims : Bool := true
  /-- Reference of the public key. -/
  keyRef : String := ""
  /-- Reference of the certificate. -/
  certRef : String := ""
  /-- Email expected in the certificate. -/
  certEmail : String := ""
  /-- OIDC issuer expected in the certificate. -/
  certOidcIssuer : String := ""
  /-- Reference of the certificate chain. -/
  certChain : String := ""
  /-- Require an embedded SCT. -/
  enforceSCT : Bool := false
  /-- Use a hardware security key. -/
  sk : Bool := false
  /-- Slot of the security key. -/
  slot : String := ""
  /-- URL of the Rekor server. -/
  rekorURL : String := ""
  /-- The attachment to verify in the place of the image. -/
  attachment : String := ""
  /-- Annotations that a signature must carry. -/
  annotations : Option (GoMap String) := none
  /-- File, URL or text of a signature to use instead of those of the image. -/
  signatureRef : String := ""
  /-- `crypto.Hash`; zero is not set. -/
  hashAlgorithm : Nat := 0
  /-- The images are layouts on disk. -/
  localImage : Bool := false

/-- What the command calls outside the modelled packages. -/
structure VerifyEnv extends Env where
  /-- `sigs.PublicKeyFromKeyRefWithHashAlgo`. -/
  publicKeyFromKeyRefWithHashAlgo : String → Nat → Except GoError Verifier
  /-- `ociremote.SBOMTag`. -/
  sbomTag : String → List RemoteOption → Except GoError String
  /-- `ociremote.ResolveDigest`: the repository and the digest. -/
  resolveDigest : String → List RemoteOption → Except GoError (String × Hash)
  /-- `blob.LoadFileOrURL`. -/
  loadFileOrURL : String → Except GoError Bytes
  /-- `os.IsNotExist`. -/
  isNotExist : GoError → Bool

/-- `crypto.SHA256`. -/
def cryptoSHA256 : Nat := 5

section

variable (env : VerifyEnv) (c : VerifyCommand)

/-- The options before the keys are looked at. -/
def verifyBaseOpts : Except GoError CheckOpts := do
  let ociremoteOpts ← wrapping "constructing client options" env.clientOpts
  let co : CheckOpts := {
    annotations := c.annotations
    registryClientOpts := ociremoteOpts
    certEmail := c.certEmail
    certOidcIssuer := c.certOidcIssuer
    enforceSCT := c.enforceSCT
    claimVerifier := if c.checkClaims then some simpleClaimVerifier else none }
  if enableExperimental env.platform then
    let rekorClient ←
      if c.rekorURL ≠ "" then
        (wrapping "creating Rekor client" (env.newRekorClient c.rekorURL)).map some
      else .ok none
    .ok { co with rekorClient, rootCerts := some env.fulcioRoots }
  else .ok co

/-- The options with the verifier of the key, the token or the certificate. -/
def verifyCheckOpts : Except GoError CheckOpts := do
  let co ← verifyBaseOpts env c
  let hashAlgorithm := if c.hashAlgorithm = 0 then cryptoSHA256 else c.hashAlgorithm
  if c.keyRef ≠ "" then
    let pubKey ← wrapping "loading public key"
      (env.publicKeyFromKeyRefWithHashAlgo c.keyRef hashAlgorithm)
    .ok { co with sigVerifier := some pubKey }
  else if c.sk then
    let sk ← wrapping "opening piv token" (env.getKeyWithSlot c.slot)
    let pubKey ← wrapping "initializing piv token verifier" sk
    .ok { co with sigVerifier := some pubKey }
  else if c.certRef ≠ "" then
    let cert ← env.loadCertFromFileOrURL c.certRef
    if c.certChain = "" then
      let pubKey ← env.platform.loadVerifier cert.publicKey
      .ok { co with sigVerifier := some pubKey }
    else
      let chain ← env.loadCertChainFromFileOrURL c.certChain
      let (co, pubKey) := validateAndUnpackCertWithChain env.platform cert chain co
      let pubKey ← pubKey
      .ok { co with sigVerifier := some pubKey }
  else .ok co

/-- `GetAttachedImageRef`. -/
def getAttachedImageRef (ref attachment : String) (opts : List RemoteOption) :
    Except GoError String :=
  if attachment = "" then .ok ref
  else if attachment = "sbom" then env.sbomTag ref opts
  else .error ⟨"unknown attachment type " ++ attachment⟩

/-- The bytes of the signature that `loadSignatureFromFile` reads: a file that does not exist is the
signature itself. -/
def targetSig (sigRef : String) : Except GoError Bytes :=
  match env.loadFileOrURL sigRef with
  | .ok targetSig => .ok targetSig
  | .error err => if env.isNotExist err then .ok (utf8Bytes sigRef) else .error err

/-- `loadSignatureFromFile`, by what `Get` returns: a signature of the payload that signing builds
for the digest without annotations. -/
def loadSignatureFromFile (sigRef signedImgRef : String) (opts : List RemoteOption) :
    Call (Except GoError Signatures) :=
  match targetSig env sigRef with
  | .error err => .ok (.error err)
  | .ok targetSig =>
    match env.resolveDigest signedImgRef opts with
    | .error err => .ok (.error err)
    | .ok (repository, digest) => do
      let b64sig := match Base64.stdDecode (goString targetSig) with
        | some _ => goString targetSig
        | none => Base64.stdEncode targetSig
      let sig ← newSignature env.platform.pem env.platform.sha256
        (cosignPayload repository digest none) b64sig []
      .ok (.ok (.ok [sig.toSignature]))

/-- The signatures that `VerifyImageSignatures` checks. -/
def signaturesToCheck (signedImgRef : String) (opts : List RemoteOption) (se : SignedEntity) :
    Call (Except GoError Signatures) :=
  if c.signatureRef = "" then .ok se.signatures
  else loadSignatureFromFile env c.signatureRef signedImgRef opts

/-- `VerifyImageSignatures`, with options that can name a signature file. -/
def verifyImageSignaturesOf (signedImgRef : String) (co : CheckOpts) : Call Outcome :=
  if co.rootCerts.isNone && co.sigVerifier.isNone then
    .ok (.failed co ⟨"one of verifier or root certs is required"⟩)
  else match getSignedEntity env.registry signedImgRef co.registryClientOpts with
    | .error err => .ok (.failed co err)
    | .ok (se, h) => do
      match ← signaturesToCheck env c signedImgRef co.registryClientOpts se with
      | .error err => .ok (.failed co err)
      | .ok sigs => verifySignatures env.platform sigs h co

/-- The body of the loop over the images. -/
def verifyExecImage (co : CheckOpts) (img : String) : Call Outcome :=
  if c.localImage then verifyLocalImageSignatures env.platform env.registry img co
  else match env.registry.parseReference img with
    | .error err => .ok (.failed co (err.wrap "parsing reference"))
    | .ok ref =>
      match getAttachedImageRef env ref c.attachment co.registryClientOpts with
      | .error err => .ok (.failed co (err.wrap
          ("resolving attachment type " ++ c.attachment ++ " for image " ++ img)))
      | .ok ref => verifyImageSignaturesOf env c ref co

/-- The loop over the images, which stops at the first error. -/
def verifyExecImages : CheckOpts → List String → Call (Option GoError)
  | _, [] => .ok none
  | co, img :: rest => do
    let (co, _, _, err) ← verifyExecImage env c co img
    match err with
    | some err => .ok (some err)
    | none => verifyExecImages co rest

/-- `VerifyCommand.Exec`. -/
def verifyExec (images : List String) : Call (Option GoError) :=
  if images.length = 0 then .ok (some errHelp)
  else if c.attachment ∉ ["sbom", ""] then .ok (some errHelp)
  else if !oneOf [c.keyRef ≠ "", c.certRef ≠ "", c.sk] && !enableExperimental env.platform then
    .ok (some pubKeyParseError)
  else match verifyCheckOpts env c with
    | .error err => .ok (some err)
    | .ok co => verifyExecImages env c co images

end

end Cosign.Cli
