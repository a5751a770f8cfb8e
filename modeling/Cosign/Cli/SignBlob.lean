import Cosign.Cli.Attest
import Cosign.Cli.VerifyBlob
import Cosign.Encoding.Struct
import Cosign.Go.Proc
import Mathlib.Data.List.Infix

/-!
# The sign-blob command

`SignBlobCmd` signs a blob and, in experimental mode, uploads the signature to the log with the
certificate or the public key of the signer. It writes one bundle file, or the signature and the
certificate to files of their own. The signer is modelled as far as `LoadPrivateKey`.
-/
namespace Cosign.Cli

open Cosign.Go Cosign.Encoding Cosign.Oci Cosign.Verify Cosign.Sign

/-! ## Private keys -/

/-- A private key of one of the families that `LoadPrivateKey` knows. -/
structure PrivateKey where
  /-- The family. -/
  kind : KeyKind
  /-- Key material. -/
  material : Bytes
  deriving DecidableEq, Repr

/-- A `pem.Block`, without its headers. -/
structure PemBlock where
  type : String
  bytes : Bytes
  deriving DecidableEq, Repr

/-- The libraries that private keys are read and used with. -/
structure KeyLibrary where
  /-- The block that `pem.Decode` finds. -/
  pemDecode : Bytes → Option PemBlock
  /-- `encrypted.Decrypt` of a text with a password. -/
  decrypt : Bytes → Bytes → Except GoError Bytes
  /-- `x509.ParsePKCS8PrivateKey`; `none` is a key of another type. -/
  parsePKCS8PrivateKey : Bytes → Except GoError (Option PrivateKey)
  /-- `signature.LoadRSAPKCS1v15SignerVerifier` at SHA-256. -/
  loadRSAPKCS1v15SignerVerifier : Bytes → Except GoError MessageSigner
  /-- `signature.LoadECDSASignerVerifier` at SHA-256. -/
  loadECDSASignerVerifier : Bytes → Except GoError MessageSigner
  /-- `signature.LoadED25519SignerVerifier`. -/
  loadED25519SignerVerifier : Bytes → Except GoError MessageSigner

/-- `CosignPrivateKeyPemType`. -/
def cosignPrivateKeyPemType : String := "ENCRYPTED COSIGN PRIVATE KEY"

/-- The first part of `LoadPrivateKey`: the key in an encrypted PEM block. -/
def parsePrivateKey (keys : KeyLibrary) (key pass : Bytes) : Except GoError (Option PrivateKey) :=
  match keys.pemDecode key with
  | none => .error ⟨"invalid pem block"⟩
  | some block =>
    if block.type ≠ cosignPrivateKeyPemType then
      .error ⟨"unsupported pem type: " ++ block.type⟩
    else do
      let x509Encoded ← wrapping "decrypt" (keys.decrypt block.bytes pass)
      wrapping "parsing private key" (keys.parsePKCS8PrivateKey x509Encoded)

/-- The signer for a private key, by its family. -/
def KeyLibrary.loadSigner (keys : KeyLibrary) (pk : PrivateKey) : Except GoError MessageSigner :=
  match pk.kind with
  | .rsa => keys.loadRSAPKCS1v15SignerVerifier pk.material
  | .ecdsa => keys.loadECDSASignerVerifier pk.material
  | .ed25519 => keys.loadED25519SignerVerifier pk.material

/-- `LoadPrivateKey`. -/
def loadPrivateKey (keys : KeyLibrary) (key pass : Bytes) : Except GoError MessageSigner := do
  match ← parsePrivateKey keys key pass with
  | some pk => keys.loadSigner pk
  | none => .error ⟨"unsupported key type"⟩

/-! ## The signer -/

/-- What the command calls outside the modelled packages. -/
structure SignBlobEnv where
  /-- The libraries for private keys. -/
  keys : KeyLibrary
  /-- `os.ReadFile(filepath.Clean(path))`. -/
  readFile : String → Except GoError Bytes
  /-- `io.ReadAll(os.Stdin)`. -/
  stdin : Except GoError Bytes
  /-- `PassFunc`, called without a confirmation; it may be nil. -/
  passFunc : Option (Except GoError Bytes)
  /-- `signerFromSecurityKey` of a slot. -/
  signerFromSecurityKey : String → Except GoError SignerVerifier
  keylessSigner : Except GoError SignerVerifier
  /-- The signer on the PKCS11 token that a URI refers to. -/
  pkcs11Signer : String → Except GoError MessageSigner
  /-- The certificate on the same token in PEM, if it has one. -/
  pkcs11Certificate : String → Except GoError (Option String)
  /-- The data of `kubernetes.GetKeyPairSecret`. -/
  getKeyPairSecret : String → Except GoError (GoMap Bytes)
  /-- `GetSecret` of a Git provider: the secret with a name under a reference. -/
  getSecret : String → String → Except GoError String
  kmsGet : String → Except GoError MessageSigner
  newRekorClient : String → Except GoError LogClient
  /-- The error of `os.WriteFile` for a path, if it fails. -/
  writeFault : String → Option GoError
  /-- The error of a write to the standard output, if it fails. -/
  stdoutFault : Option GoError

/-- `strings.HasPrefix`. -/
def hasStart (text start : String) : Bool := (runes start).isPrefixOf (runes text)

/-- `strings.Contains(keyRef, "://")`. -/
def hasScheme (keyRef : String) : Bool := decide (runes "://" <:+: runes keyRef)

/-- `loadKey`. -/
def loadKey (env : SignBlobEnv) (keyPath : String) : Except GoError MessageSigner := do
  let kb ← env.readFile keyPath
  let pass ← env.passFunc.getD (.ok [])
  loadPrivateKey env.keys kb pass

/-- The end of `SignerVerifierFromKeyRef`: a key management service or a file. -/
def kmsOrFile (env : SignBlobEnv) (keyRef : String) : Except GoError MessageSigner :=
  if hasScheme keyRef then wrapping "kms get" (env.kmsGet keyRef) else loadKey env keyRef

/-- `SignerVerifierFromKeyRef`. A Kubernetes secret without data is passed over. -/
def signerVerifierFromKeyRef (env : SignBlobEnv) (keyRef : String) :
    Except GoError MessageSigner :=
  if hasStart keyRef "pkcs11:" then env.pkcs11Signer keyRef
  else if hasStart keyRef "k8s://" then do
    let data ← env.getKeyPairSecret keyRef
    if 0 < data.entries.length then
      loadPrivateKey env.keys ((data.lookup "cosign.key").getD [])
        ((data.lookup "cosign.password").getD [])
    else kmsOrFile env keyRef
  else if hasStart keyRef "gitlab" then
    if !hasScheme keyRef then
      .error ⟨"could not parse scheme, use <scheme>://<ref> format"⟩
    else do
      let pk ← env.getSecret keyRef "COSIGN_PRIVATE_KEY"
      let pass ← env.getSecret keyRef "COSIGN_PASSWORD"
      loadPrivateKey env.keys (utf8Bytes pk) (utf8Bytes pass)
  else kmsOrFile env keyRef

/-- `signerFromKeyRef` without certificate paths: a certificate can only come from a token. -/
def signerFromKeyRef (env : SignBlobEnv) (keyRef : String) : Except GoError SignerVerifier := do
  let k ← wrapping "reading key" (signerVerifierFromKeyRef env keyRef)
  let cert ← if hasStart keyRef "pkcs11:" then env.pkcs11Certificate keyRef else .ok none
  .ok ⟨cert, none, k⟩

/-- `SignerFromKeyOpts` without certificate paths. -/
def signerFromKeyOpts (env : SignBlobEnv) (ko : KeyOpts) : Except GoError SignerVerifier :=
  if ko.sk then env.signerFromSecurityKey ko.slot
  else if ko.keyRef ≠ "" then signerFromKeyRef env ko.keyRef
  else env.keylessSigner

/-! ## Signing -/

/-- The arguments of `SignBlobCmd`. -/
structure SignBlobArgs where
  /-- The key options. -/
  ko : KeyOpts := {}
  /-- Path of the blob. -/
  payloadPath : String := ""
  /-- Write base64. -/
  b64 : Bool := true
  /-- Path for the signature. -/
  outputSignature : String := ""
  /-- Path for the certificate. -/
  outputCertificate : String := ""
  deriving DecidableEq, Repr

/-- The blob that is signed. -/
def signedBytes (env : SignBlobEnv) (payloadPath : String) : Except GoError Bytes :=
  if payloadPath = "-" then env.stdin else env.readFile payloadPath

/-- A signature with what the log has of it. -/
structure SignedBlob where
  /-- `sig`. -/
  signature : Bytes
  /-- `rekorBytes`: what was uploaded as the key. -/
  rekorBytes : Bytes
  /-- The bundle of the entry. -/
  bundle : Option RekorBundle

/-- The entry for a signature, in experimental mode. -/
def logBlob (p : Platform) (env : SignBlobEnv) (rekorURL : String) (sv : SignerVerifier)
    (sig payload : Bytes) : Call (Except GoError SignedBlob) :=
  if !enableExperimental p then .ok (.ok ⟨sig, [], none⟩)
  else match sv.bytes p with
    | .error err => .ok (.error err)
    | .ok rekorBytes =>
      match env.newRekorClient rekorURL with
      | .error err => .ok (.error err)
      | .ok rekorClient => do
        match ← uploadToTlog rekorBytes (tLogUpload p rekorClient sig payload) with
        | .error err => .ok (.error err)
        | .ok bundle => .ok (.ok ⟨sig, rekorBytes, bundle⟩)

/-- `SignBlobCmd` before anything is written. -/
def signBlob (p : Platform) (env : SignBlobEnv) (args : SignBlobArgs) :
    Call (Except GoError SignedBlob) :=
  match signedBytes env args.payloadPath with
  | .error err => .ok (.error err)
  | .ok payload =>
    match signerFromKeyOpts env args.ko with
    | .error err => .ok (.error err)
    | .ok sv =>
      match wrapping "signing blob" (sv.signer.signMessage payload [⟨"WithContext"⟩]) with
      | .error err => .ok (.error err)
      | .ok sig => logBlob p env args.ko.rekorURL sv sig payload

/-! ## What is written -/

/-- The tree that `json.Marshal` writes for a `LocalSignedPayload`. -/
def LocalSignedPayload.toJson (payload : LocalSignedPayload) : Json :=
  .struct [("base64Signature", some (.str payload.base64Signature)),
    ("cert", Json.omitString payload.cert),
    ("rekorBundle", payload.bundle.map RekorBundle.toJson)]

/-- The content of the bundle file. -/
def SignedBlob.payload (signed : SignedBlob) : LocalSignedPayload where
  base64Signature := Base64.stdEncode signed.signature
  cert := Base64.stdEncode signed.rekorBytes
  bundle := signed.bundle

/-- The files of a disk, by their paths. -/
abbrev Files : Type := String → Option Bytes

/-- `os.WriteFile`; a write that fails changes nothing. -/
def SignBlobEnv.writeFile (env : SignBlobEnv) (path : String) (contents : Bytes) :
    Proc Files Unit := fun files =>
  match env.writeFault path with
  | some err => (.error err, files)
  | none => (.ok (), Function.update files path (some contents))

/-- Bytes as the output has them. -/
def outputForm (b64 : Bool) (bytes : Bytes) : Bytes :=
  if b64 then utf8Bytes (Base64.stdEncode bytes) else bytes

/-- The signature goes to a file, or else to the standard output, where an error of the base64
form is not looked at. The base64 form is returned only in the second case. -/
def writeSignature (env : SignBlobEnv) (args : SignBlobArgs) (sig : Bytes) : Proc Files Bytes :=
  if args.outputSignature ≠ "" then do
    (env.writeFile args.outputSignature (outputForm args.b64 sig)).wrap "create signature file"
    return sig
  else if args.b64 then return outputForm true sig
  else match env.stdoutFault with
    | some err => .fail err
    | none => return sig

/-- The signature and the certificate, in files of their own. -/
def writeOutputs (env : SignBlobEnv) (args : SignBlobArgs) (signed : SignedBlob) :
    Proc Files Bytes := do
  let sig ← writeSignature env args signed.signature
  if args.outputCertificate ≠ "" ∧ 0 < signed.rekorBytes.length then
    (env.writeFile args.outputCertificate (outputForm args.b64 signed.rekorBytes)).wrap
      "create certificate file"
  return sig

/-- What `SignBlobCmd` writes; a bundle file replaces the other outputs. -/
def writeSignedBlob (env : SignBlobEnv) (args : SignBlobArgs) (signed : SignedBlob) :
    Proc Files Bytes :=
  if args.ko.bundlePath ≠ "" then do
    env.writeFile args.ko.bundlePath (Json.marshal signed.payload.toJson)
    return utf8Bytes signed.payload.base64Signature
  else writeOutputs env args signed

/-- `SignBlobCmd` on the files of a disk. -/
def signBlobCmd (p : Platform) (env : SignBlobEnv) (args : SignBlobArgs) (files : Files) :
    Call (Except GoError Bytes × Files) := do
  match ← signBlob p env args with
  | .error err => .ok (.error err, files)
  | .ok signed => .ok (writeSignedBlob env args signed files)

end Cosign.Cli
