import Cosign.Verify.LogClient
import Cosign.Cli.VerifyAttestation

/-!
# The verify-blob command

`VerifyBlobCmd` takes a key from one of five sources, verifies the signature of a blob with it and
looks for evidence in the log: first in a bundle file, then, in experimental mode, online. Without a
key it tries the certificates of the entries of the blob. Of what is printed, `verifiedOffline`
returns that the entry was verified offline.
-/
namespace Cosign.Cli

open Cosign.Go Cosign.Encoding Cosign.Oci Cosign.Verify

/-- `sign.KeyOpts`, as far as verification reads it. -/
structure KeyOpts where
  /-- Use a hardware security key. -/
  sk : Bool := false
  /-- Slot of the security key. -/
  slot : String := ""
  /-- Reference of the public key. -/
  keyRef : String := ""
  /-- URL of the Rekor server. -/
  rekorURL : String := ""
  /-- Path of the bundle file. -/
  bundlePath : String := ""
  deriving DecidableEq, Repr

/-- The arguments of `VerifyBlobCmd`. -/
structure VerifyBlobArgs where
  /-- The key options. -/
  ko : KeyOpts := {}
  /-- Reference of the certificate. -/
  certRef : String := ""
  /-- Email expected in the certificate. -/
  certEmail : String := ""
  /-- OIDC issuer expected in the certificate. -/
  certOidcIssuer : String := ""
  /-- Reference of the certificate chain. -/
  certChain : String := ""
  /-- Reference of the signature, or the signature in base64. -/
  sigRef : String := ""
  /-- Reference of the blob. -/
  blobRef : String := ""
  /-- Require an embedded SCT. -/
  enforceSCT : Bool := false
  deriving DecidableEq, Repr

/-- `types.NewEntry` of a proposed entry, by its dynamic type. -/
inductive EntryImpl where
  /-- `*rekord.V001Entry`. -/
  | rekord (rekordObj : RekordObj)
  /-- `*hashedrekord.V001Entry`. -/
  | hashedrekord (hashedRekordObj : RekordObj)
  /-- Another type of entry. -/
  | other
  deriving DecidableEq, Repr

/-- What the command calls outside the modelled packages. -/
structure BlobEnv where
  /-- The platform of verification. -/
  platform : Platform
  /-- `rekor.NewClient`: the client that is made as the given one of a run. -/
  newRekorClient : Nat → String → Except GoError LogClient
  /-- `fulcio.GetRoots`. -/
  fulcioRoots : CertPool
  /-- `fulcio.GetIntermediates`. -/
  fulcioIntermediates : CertPool
  /-- `sigs.PublicKeyFromKeyRef`. -/
  publicKeyFromKeyRef : String → Except GoError Verifier
  /-- `pivkey.GetKeyWithSlot` and the `Verifier()` of the key. -/
  getKeyWithSlot : String → Except GoError (Except GoError Verifier)
  /-- `blob.LoadFileOrURL`. -/
  loadFileOrURL : String → Except GoError Bytes
  /-- `os.IsNotExist`. -/
  isNotExist : GoError → Bool
  /-- `io.ReadAll(os.Stdin)`. -/
  stdin : Except GoError Bytes
  /-- `cryptoutils.UnmarshalCertificatesFromPEM`, which `LoadCertificatesFromPEM` calls on what
  it has read. -/
  unmarshalCertificatesFromPEM : Bytes → Except GoError (List Certificate)
  /-- `signature.LoadECDSAVerifier` at SHA-256. -/
  loadECDSAVerifier : PublicKey → Except GoError Verifier
  /-- `dsse.WrapVerifier`. -/
  wrapVerifier : Verifier → Verifier
  /-- `models.UnmarshalProposedEntry` and `types.NewEntry` of its result. -/
  newEntry : Bytes → Except GoError EntryImpl

/-- `cosign.LocalSignedPayload`. -/
structure LocalSignedPayload where
  base64Signature : String
  /-- A certificate or a public key, in PEM or in base64. -/
  cert : String
  /-- The log evidence, if any. -/
  bundle : Option RekorBundle
  deriving Repr

namespace LocalSignedPayload

/-- The zero value that decoding starts from. -/
def zero : LocalSignedPayload := ⟨"", "", none⟩

/-- Struct tags of `LocalSignedPayload`. -/
def fields : List (StructField LocalSignedPayload) :=
  [⟨"base64Signature", storeString fun filled text => { filled with base64Signature := text }⟩,
    ⟨"cert", storeString fun filled text => { filled with cert := text }⟩,
    ⟨"rekorBundle", storePointer (fillStruct "bundle.RekorBundle" RekorBundle.fields)
      RekorBundle.zero bundle fun filled bundle => { filled with bundle }⟩]

/-- `json.Unmarshal` into a pointer, which a null leaves nil. -/
def unmarshal (contents : Bytes) : Except GoError (Option LocalSignedPayload) :=
  Encoding.unmarshal (storePointer (fillStruct "cosign.LocalSignedPayload" fields) zero id
    (fun _ target => target) none) contents

end LocalSignedPayload

/-- `FetchLocalSignedPayloadFromPath`. -/
def fetchLocalSignedPayloadFromPath (p : Platform) (path : String) :
    Except GoError (Option LocalSignedPayload) :=
  match p.readFile path with
  | .error err => .error (err.wrap ("reading " ++ path))
  | .ok contents => LocalSignedPayload.unmarshal contents

/-- The raw and the base64 form of what was given as a signature, which may be either. -/
def rawAndBase64 (targetSig : Bytes) : Bytes × String :=
  match Base64.stdDecodeRaw targetSig with
  | some sigBytes => (sigBytes, goString targetSig)
  | none => (targetSig, Base64.stdEncode targetSig)

/-- `signatures`: the raw signature and the base64 encoded signature. -/
def signatures (env : BlobEnv) (sigRef bundlePath : String) :
    Call (Except GoError (Bytes × String)) :=
  if sigRef ≠ "" then
    match env.loadFileOrURL sigRef with
    | .ok targetSig => .ok (.ok (rawAndBase64 targetSig))
    | .error err =>
      if !env.isNotExist err then .ok (.error err)
      else .ok (.ok (rawAndBase64 (utf8Bytes sigRef)))
  else if bundlePath ≠ "" then
    match fetchLocalSignedPayloadFromPath env.platform bundlePath with
    | .error err => .ok (.error err)
    | .ok b => do
      let b ← deref b
      .ok (.ok (rawAndBase64 (utf8Bytes b.base64Signature)))
  else .ok (.error ⟨"missing flag '--signature'"⟩)

/-- `payloadBytes`. -/
def payloadBytes (env : BlobEnv) (blobRef : String) : Except GoError Bytes :=
  if blobRef = "-" then env.stdin else env.loadFileOrURL blobRef

/-- `loadCertFromPEM`. -/
def loadCertFromPEM (env : BlobEnv) (pems : Bytes) : Except GoError Certificate :=
  match env.unmarshalCertificatesFromPEM ((Base64.stdDecodeRaw pems).getD pems) with
  | .error err => .error err
  | .ok [] => .error ⟨"no certs found in pem file"⟩
  | .ok (cert :: _) => .ok cert

/-- `loadCertFromFileOrURL`. -/
def loadCertFromFileOrURL (env : BlobEnv) (path : String) : Except GoError Certificate := do
  let pems ← env.loadFileOrURL path
  loadCertFromPEM env pems

/-- `loadCertChainFromFileOrURL`. -/
def loadCertChainFromFileOrURL (env : BlobEnv) (path : String) :
    Except GoError (List Certificate) := do
  let pems ← env.loadFileOrURL path
  env.unmarshalCertificatesFromPEM pems

/-- `sigs.LoadPublicKeyRaw`. -/
def loadPublicKeyRaw (env : BlobEnv) (raw : Bytes) : Except GoError Verifier := do
  let ed ← wrapping "pem to ecdsa" (pemToECDSAKey env.platform raw)
  env.loadECDSAVerifier ed

/-- `isIntotoDSSE`: the blob is an envelope with the in-toto payload type. -/
def isIntotoDSSE (blobBytes : Bytes) : Bool :=
  match Envelope.unmarshal blobBytes with
  | .error _ => false
  | .ok envelope => envelope.payloadType == intotoPayloadType

/-- The verifier of a blob: for an in-toto envelope the DSSE verifier. -/
def blobVerifier (env : BlobEnv) (blobBytes : Bytes) (verifier : Verifier) : Verifier :=
  if isIntotoDSSE blobBytes then env.wrapVerifier verifier else verifier

/-- `verifyRekorBundle`: the signed entry timestamp of the bundle and the expiry of the
certificate. -/
def verifyRekorBundle (env : BlobEnv) (bundlePath : String) (cert : Option Certificate) :
    Call (Option GoError) :=
  let p := env.platform
  match fetchLocalSignedPayloadFromPath p bundlePath with
  | .error err => .ok (some err)
  | .ok b => do
    let b ← deref b
    match b.bundle with
    | none => .ok (some ⟨"rekor entry is not available"⟩)
    | some bundle =>
      match getRekorPubs p with
      | .error err => .ok (some (err.wrap "retrieving rekor public key"))
      | .ok publicKeys =>
        match publicKeys.lookup bundle.payload.logID with
        | none => .ok (some ⟨"rekor log public key not found for payload"⟩)
        | some pubKey =>
          match verifySET p bundle.payload bundle.signedEntryTimestamp pubKey.pubKey with
          | some err => .ok (some err)
          | none =>
            match cert with
            | none => .ok none
            | some cert => .ok (checkExpiry p cert (Time.unix bundle.payload.integratedTime))

/-- The offline part of `verifyRekorEntry`: whether it reports that the entry was verified. -/
def verifiedOffline (env : BlobEnv) (ko : KeyOpts) (cert : Option Certificate) : Call Bool :=
  if ko.bundlePath ≠ "" then do
    let err ← verifyRekorBundle env ko.bundlePath cert
    .ok err.isNone
  else .ok false

/-- `sigs.PublicKeyPem` with the context of the call. -/
def publicKeyPem (p : Platform) (key : Verifier) : Except GoError Bytes := do
  let pub ← key.publicKey [⟨"WithContext"⟩]
  p.marshalPublicKeyToPEM pub

/-- What an entry is searched by: the certificate if there is one, or else the key, which is
marshalled in either case. -/
def searchPem (p : Platform) (pubKey : Verifier) (cert : Option Certificate) :
    Except GoError Bytes := do
  let pubBytes ← publicKeyPem p pubKey
  match cert with
  | none => .ok pubBytes
  | some cert => p.marshalCertificateToPEM (some cert)

/-- The entry that is verified: the given one, or else the one that the log search returns. -/
def entryAtHand (p : Platform) (rekorClient : LogClient) (e : Option LogEntryAnon)
    (pubKey : Verifier) (cert : Option Certificate) (b64sig : String) (blobBytes : Bytes) :
    Call (Except GoError LogEntryAnon) :=
  match e with
  | some e => .ok (.ok e)
  | none =>
    match searchPem p pubKey cert with
    | .error err => .ok (.error err)
    | .ok pubBytes => findTlogEntry p rekorClient.toRekorClient b64sig blobBytes pubBytes

/-- The end of `verifyRekorEntry`. An entry that does not verify is no error. -/
def verifyEntryAtHand (p : Platform) (rekorClient : LogClient) (e : LogEntryAnon)
    (cert : Option Certificate) : Call (Option GoError) := do
  match ← verifyTLogEntry p rekorClient.toRekorClient e with
  | some _ => .ok none
  | none =>
    match ← computeLeafHash p e with
    | .error err => .ok (some err)
    | .ok _ =>
      let verification ← deref e.verification
      let inclusionProof ← deref verification.inclusionProof
      let _ ← deref inclusionProof.logIndex
      match cert with
      | none => .ok none
      | some cert => do
        let integratedTime ← deref e.integratedTime
        .ok (checkExpiry p cert (Time.unix integratedTime))

/-- `verifyRekorEntry`, which makes the given client of the run. -/
def verifyRekorEntry (env : BlobEnv) (ko : KeyOpts) (made : Nat) (e : Option LogEntryAnon)
    (pubKey : Verifier) (cert : Option Certificate) (b64sig : String) (blobBytes : Bytes) :
    Call (Option GoError) := do
  if ← verifiedOffline env ko cert then .ok none
  else if !enableExperimental env.platform then .ok none
  else match env.newRekorClient made ko.rekorURL with
    | .error err => .ok (some err)
    | .ok rekorClient => do
      match ← entryAtHand env.platform rekorClient e pubKey cert b64sig blobBytes with
      | .error err => .ok (some err)
      | .ok e => verifyEntryAtHand env.platform rekorClient e cert

/-- `extractCerts`: the certificates in the public key of an entry, of which there is at least
one. -/
def extractCerts (env : BlobEnv) (e : LogEntryAnon) :
    Call (Except GoError (Certificate × List Certificate)) := do
  let body ← assertString e.body
  match Base64.stdDecode body with
  | none => .ok (.error corruptInput)
  | some b =>
    match env.newEntry b with
    | .error err => .ok (.error err)
    | .ok .other => .ok (.error ⟨"unexpected tlog entry type"⟩)
    | .ok (.rekord obj) | .ok (.hashedrekord obj) => do
      let signature ← deref obj.signature
      let content ← deref signature.publicKey
      match Base64.stdDecode (Base64.stdEncode content) with
      | none => .ok (.error corruptInput)
      | some publicKey =>
        match env.unmarshalCertificatesFromPEM publicKey with
        | .error err => .ok (.error err)
        | .ok [] => .ok (.error ⟨"no certs found in pem tlog"⟩)
        | .ok (cert :: certs) => .ok (.ok (cert, certs))

/-- The options under which the certificate of an entry is validated. -/
def logCheckOpts (env : BlobEnv) (args : VerifyBlobArgs) : CheckOpts where
  rootCerts := some env.fulcioRoots
  intermediateCerts := some env.fulcioIntermediates
  certEmail := args.certEmail
  certOidcIssuer := args.certOidcIssuer
  enforceSCT := args.enforceSCT

/-- One iteration of `verifySigByUUID`: whether the entry is valid. -/
def verifySigByEntry (env : BlobEnv) (args : VerifyBlobArgs) (rClient : LogClient) (sig : Bytes)
    (b64sig : String) (blobBytes : Bytes) (request : Nat) (uuid : String) : Call Bool := do
  match ← getTlogEntry env.platform rClient request uuid with
  | .error _ => .ok false
  | .ok tlogEntry =>
    match ← extractCerts env tlogEntry with
    | .error _ => .ok false
    | .ok (cert, _) =>
      match validateAndUnpackCert env.platform cert (logCheckOpts env args) with
      | .error _ => .ok false
      | .ok verifier =>
        let verifier := blobVerifier env blobBytes verifier
        match verifier.verifySignature sig blobBytes with
        | some _ => .ok false
        | none => do
          let err ← verifyRekorEntry env args.ko (request + 1) (some tlogEntry) verifier
            (some cert) b64sig blobBytes
          .ok err.isNone

/-- The loop of `verifySigByUUID`, which goes through all entries: whether one is valid. -/
def validSigExists (env : BlobEnv) (args : VerifyBlobArgs) (rClient : LogClient) (sig : Bytes)
    (b64sig : String) (blobBytes : Bytes) : Nat → List String → Call Bool
  | _, [] => .ok false
  | request, uuid :: rest => do
    let valid ← verifySigByEntry env args rClient sig b64sig blobBytes request uuid
    let more ← validSigExists env args rClient sig b64sig blobBytes (request + 1) rest
    .ok (valid || more)

/-- `verifySigByUUID`. -/
def verifySigByUUID (env : BlobEnv) (args : VerifyBlobArgs) (rClient : LogClient) (sig : Bytes)
    (b64sig : String) (uuids : List String) (blobBytes : Bytes) : Call (Option GoError) := do
  if ← validSigExists env args rClient sig b64sig blobBytes 0 uuids then .ok none
  else .ok (some ⟨"could not find a valid tlog entry for provided blob, found " ++
    toString uuids.length ++ " invalid entries"⟩)

/-- The certificate file, without or with a chain. -/
def certVerifier (env : BlobEnv) (args : VerifyBlobArgs) :
    Except GoError (Verifier × Option Certificate) := do
  let cert ← loadCertFromFileOrURL env args.certRef
  if args.certChain = "" then
    let verifier ← env.platform.loadVerifier cert.publicKey
    .ok (verifier, some cert)
  else
    let chain ← loadCertChainFromFileOrURL env args.certChain
    let co : CheckOpts := {
      certEmail := args.certEmail
      certOidcIssuer := args.certOidcIssuer
      enforceSCT := args.enforceSCT }
    let verifier ← (validateAndUnpackCertWithChain env.platform cert chain co).2
    .ok (verifier, some cert)

/-- The certificate text of a bundle file, decoded if it is base64. -/
def bundleCertBytes (b : LocalSignedPayload) : Bytes :=
  (Base64.stdDecode b.cert).getD (utf8Bytes b.cert)

/-- The certificate or the public key in a bundle file. -/
def bundleVerifier (env : BlobEnv) (bundlePath : String) :
    Call (Except GoError (Verifier × Option Certificate)) :=
  match fetchLocalSignedPayloadFromPath env.platform bundlePath with
  | .error err => .ok (.error err)
  | .ok b => do
    let b ← deref b
    if b.cert = "" then
      .ok (.error
        ⟨"bundle does not contain cert for verification, please provide public key"⟩)
    else match loadCertFromPEM env (bundleCertBytes b) with
      | .error _ => .ok ((loadPublicKeyRaw env (bundleCertBytes b)).map fun key => (key, none))
      | .ok cert =>
        .ok ((env.platform.loadVerifier cert.publicKey).map fun key => (key, some cert))

/-- The key selection of `VerifyBlobCmd`: a verifier with its certificate, if it comes from
one; or none, when the log is to be searched for one. -/
def selectVerifier (env : BlobEnv) (args : VerifyBlobArgs) :
    Call (Except GoError (Option (Verifier × Option Certificate))) :=
  let ko := args.ko
  if ko.keyRef ≠ "" then
    .ok ((wrapping "loading public key" (env.publicKeyFromKeyRef ko.keyRef)).map fun key =>
      some (key, none))
  else if ko.sk then
    .ok (do
      let sk ← wrapping "opening piv token" (env.getKeyWithSlot ko.slot)
      let key ← wrapping "loading public key from token" sk
      .ok (some (key, none)))
  else if args.certRef ≠ "" then .ok ((certVerifier env args).map some)
  else if ko.bundlePath ≠ "" then do
    let selected ← bundleVerifier env ko.bundlePath
    .ok (selected.map some)
  else if enableExperimental env.platform then .ok (.ok none)
  else .error .nilDereference

/-- The part of `VerifyBlobCmd` after a key was selected. -/
def verifyWithKey (env : BlobEnv) (args : VerifyBlobArgs) (sig : Bytes) (b64sig : String)
    (blobBytes : Bytes) (verifier : Verifier) (cert : Option Certificate) :
    Call (Option GoError) :=
  let verifier := blobVerifier env blobBytes verifier
  match verifier.verifySignature sig blobBytes with
  | some err => .ok (some err)
  | none => verifyRekorEntry env args.ko 0 none verifier cert b64sig blobBytes

/-- The part of `VerifyBlobCmd` that searches the log for a certificate. -/
def verifyByLog (env : BlobEnv) (args : VerifyBlobArgs) (sig : Bytes) (b64sig : String)
    (blobBytes : Bytes) : Call (Option GoError) :=
  match env.newRekorClient 0 args.ko.rekorURL with
  | .error err => .ok (some err)
  | .ok rClient =>
    match findTLogEntriesByPayload env.platform rClient blobBytes with
    | .error err => .ok (some err)
    | .ok uuids =>
      if uuids.length = 0 then
        .ok (some ⟨"could not find a tlog entry for provided blob"⟩)
      else verifySigByUUID env args rClient sig b64sig uuids blobBytes

/-- `VerifyBlobCmd`. -/
def verifyBlobCmd (env : BlobEnv) (args : VerifyBlobArgs) : Call (Option GoError) :=
  if !oneOf [args.ko.keyRef ≠ "", args.ko.sk, args.certRef ≠ ""] &&
      !enableExperimental env.platform && args.ko.bundlePath = "" then
    .ok (some pubKeyParseError)
  else do
    match ← signatures env args.sigRef args.ko.bundlePath with
    | .error err => .ok (some err)
    | .ok (sig, b64sig) =>
      match payloadBytes env args.blobRef with
      | .error err => .ok (some err)
      | .ok blobBytes => do
        match ← selectVerifier env args with
        | .error err => .ok (some err)
        | .ok (some (verifier, cert)) =>
          verifyWithKey env args sig b64sig blobBytes verifier cert
        | .ok none => verifyByLog env args sig b64sig blobBytes

end Cosign.Cli
