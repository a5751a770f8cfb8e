import Cosign.Verify.Certificate

/-!
# Offline log evidence: the Rekor bundle of a signature

`VerifyBundle` checks the bundle that a signature carries: the signature is compared first, the
payload hash last and only when there is a certificate. The body of the bundle is whatever JSON the
annotation held, so a type assertion and several pointers are followed on unverified data; each can
panic.
-/
namespace Cosign.Verify

open Cosign.Go Cosign.Encoding Cosign.Oci

/-- `RekorPubKey`: a verification key with its status. -/
structure RekorPubKey where
  /-- The ECDSA key. -/
  pubKey : PublicKey
  /-- Status according to the trusted root. -/
  status : StatusKind
  deriving DecidableEq, Repr

/-- Environment variable that names an out-of-band Rekor key file. -/
def altRekorPublicKey : String := "SIGSTORE_REKOR_PUBLIC_KEY"

/-- Environment variable that trusts the key the Rekor server gives. -/
def addRekorPublicKeyFromRekor : String := "SIGSTORE_TRUST_REKOR_API_PUBLIC_KEY"

/-- `PemToECDSAKey`. -/
def pemToECDSAKey (p : Platform) (pemBytes : Bytes) : Except GoError PublicKey :=
  match p.unmarshalPEMToPublicKey pemBytes with
  | .error err => .error err
  | .ok pub =>
    if pub.kind = .ecdsa then .ok pub
    else .error ⟨"invalid public key: was " ++ pub.kind.typeName ++
      ", require *ecdsa.PublicKey"⟩

/-- `getLogID`: the SHA-256 of the DER-encoded key. -/
def getLogID (p : Platform) (pub : PublicKey) : Except GoError String :=
  match p.marshalPKIXPublicKey pub with
  | .error err => .error err
  | .ok pubBytes => .ok (Hex.encodeToString (p.sha256 pubBytes))

/-- The loop over the Rekor targets of the trusted root. -/
def addTargets (p : Platform) :
    GoMap RekorPubKey → List TargetFile → Except GoError (GoMap RekorPubKey)
  | publicKeys, [] => .ok publicKeys
  | publicKeys, target :: rest =>
    match pemToECDSAKey p target.target with
    | .error err => .error (err.wrap "pem to ecdsa")
    | .ok rekorPubKey =>
      match getLogID p rekorPubKey with
      | .error err => .error (err.wrap "error generating log ID")
      | .ok keyID => addTargets p (publicKeys.insert keyID ⟨rekorPubKey, target.status⟩) rest

/-- `GetRekorPubs`: the trusted Rekor keys by log identifier. -/
def getRekorPubs (p : Platform) : Except GoError (GoMap RekorPubKey) :=
  match p.rekorTargets with
  | .error err => .error err
  | .ok targets =>
    let altRekorPub := p.getenv altRekorPublicKey
    if altRekorPub ≠ "" then
      match p.readFile altRekorPub with
      | .error err => .error (err.wrap "error reading alternate Rekor public key file")
      | .ok raw =>
        match pemToECDSAKey p raw with
        | .error err => .error (err.wrap "error converting PEM to ECDSAKey")
        | .ok extra =>
          match getLogID p extra with
          | .error err => .error (err.wrap "error generating log ID")
          | .ok keyID => .ok (AList.singleton keyID ⟨extra, .active⟩)
    else match addTargets p ∅ targets with
      | .error err => .error err
      | .ok publicKeys =>
        if publicKeys.keys.isEmpty then
          .error ⟨"none of the Rekor public keys have been found"⟩
        else .ok publicKeys

/-- `VerifySET`: the log's signature over the canonical JSON of the payload. -/
def verifySET (p : Platform) (bundlePayload : RekorPayload) (signature : Bytes)
    (pub : PublicKey) : Option GoError :=
  match p.canonicalize (Json.marshal bundlePayload.toJson) with
  | .error err => some (err.wrap "canonicalizing")
  | .ok canonicalized =>
    if p.verifyASN1 pub (p.sha256 canonicalized) signature then none
    else some ⟨"unable to verify"⟩

/-- `*obj.Hash.Algorithm` and `*obj.Hash.Value`, through every pointer on the way. -/
def derefHash (hash : Option (Option EntryHash)) : Call (String × String) := do
  let hash ← deref hash
  let hash ← deref hash
  let algorithm ← deref hash.algorithm
  let value ← deref hash.value
  .ok (algorithm, value)

/-- The spec of an entry, marshalled and decoded again as its schema. -/
def decodeSpec {obj : Type} (decode : Bytes → Except GoError obj) (spec : Json) :
    Except GoError obj := decode (Json.marshal spec)

/-- The end of `bundleHash` for one kind of entry: the hash of the decoded schema. -/
def specHash {obj : Type} (decode : Bytes → Except GoError obj)
    (hash : obj → Option (Option EntryHash)) (spec : Json) :
    Call (String × String × Option GoError) :=
  match decodeSpec decode spec with
  | .error err => .ok ("", "", some err)
  | .ok decoded => do
    let (algorithm, value) ← derefHash (hash decoded)
    .ok (algorithm, value, none)

/-- `bundleHash`: the hash an entry records. An empty signature means an attestation. -/
def bundleHash (p : Platform) (bundleBody signature : String) :
    Call (String × String × Option GoError) :=
  match Base64.stdDecode bundleBody with
  | none => .ok ("", "", some corruptInput)
  | some bodyDecoded =>
    if signature.length = 0 then
      match p.unmarshalIntoto bodyDecoded with
      | .error err => .ok ("", "", some err)
      | .ok spec => specHash p.unmarshalIntotoObj IntotoObj.content spec
    else match p.unmarshalRekord bodyDecoded with
      | .ok spec => specHash p.unmarshalRekordObj RekordObj.data spec
      | .error _ =>
        match p.unmarshalHashedrekord bodyDecoded with
        | .error err => .ok ("", "", some err)
        | .ok spec => specHash p.unmarshalHashedrekordObj RekordObj.data spec

/-- The end of `bundleSig` for one kind of entry: the signature of the decoded schema. -/
def specSig (decode : Bytes → Except GoError RekordObj) (spec : Json) :
    Call (Except GoError String) :=
  match decodeSpec decode spec with
  | .error err => .ok (.error err)
  | .ok decoded => do
    let signature ← deref decoded.signature
    .ok (.ok (Base64.stdEncode signature.content))

/-- `bundleSig`: the signature an entry records. -/
def bundleSig (p : Platform) (bundleBody : String) : Call (Except GoError String) :=
  match Base64.stdDecode bundleBody with
  | none => .ok (.error (corruptInput.wrap "decoding bundleBody"))
  | some bodyDecoded =>
    match p.unmarshalRekord bodyDecoded with
    | .ok spec => specSig p.unmarshalRekordObj spec
    | .error _ =>
      match p.unmarshalHashedrekord bodyDecoded with
      | .error err => .ok (.error err)
      | .ok spec => specSig p.unmarshalHashedrekordObj spec

/-- `compareSigs`: the signature in the bundle is the one being verified. An empty signature,
which means an attestation, and an entry with an empty signature are not compared. -/
def compareSigs (p : Platform) (bundleBody : String) (sig : Signature) :
    Call (Option GoError) :=
  match sig.base64Signature with
  | .error err => .ok (some (err.wrap "base64 signature"))
  | .ok actualSig =>
    if actualSig = "" then .ok none
    else do
      match ← bundleSig p bundleBody with
      | .error err => .ok (some (err.wrap "failed to extract signature from bundle"))
      | .ok bundleSignature =>
        if bundleSignature = "" then .ok none
        else if bundleSignature ≠ actualSig then
          .ok (some ⟨"signature in bundle does not match signature being verified"⟩)
        else .ok none

/-- The last checks of `VerifyBundle`, with a certificate: the integrated time is within its
validity period and the entry records the hash of the payload. A mismatch wraps the error of
`bundleHash`, which is nil when the hash was read. -/
def verifyBundleCert (p : Platform) (sig : Signature) (payload : RekorPayload) (body : String)
    (cert : Certificate) : Call (Bool × Option GoError) :=
  match checkExpiry p cert (Time.unix payload.integratedTime) with
  | some err => .ok (false, some (err.wrap "checking expiry on cert"))
  | none =>
    match sig.payload with
    | .error err => .ok (false, some (err.wrap "reading payload"))
    | .ok content =>
      match sig.base64Signature with
      | .error err => .ok (false, some (err.wrap "reading base64signature"))
      | .ok signature => do
        let (alg, bundlehash, err) ← bundleHash p body signature
        let payloadHash := Hex.encodeToString (p.sha256 content)
        if alg ≠ "sha256" ∨ bundlehash ≠ payloadHash then
          .ok (false, wrap err "matching bundle to payload")
        else .ok (true, none)

/-- `VerifyBundle`: whether the bundle of a signature proves that it is in the log. -/
def verifyBundle (p : Platform) (sig : Signature) : Call (Bool × Option GoError) :=
  match sig.bundle with
  | .error err => .ok (false, some err)
  | .ok none => .ok (false, none)
  | .ok (some bundle) => do
    let body ← assertString bundle.payload.body
    match ← compareSigs p body sig with
    | some err => .ok (false, some err)
    | none =>
      match getRekorPubs p with
      | .error err => .ok (false, some (err.wrap "retrieving rekor public key"))
      | .ok publicKeys =>
        match publicKeys.lookup bundle.payload.logID with
        | none => .ok (false, some ⟨"rekor log public key not found for payload"⟩)
        | some pubKey =>
          match verifySET p bundle.payload bundle.signedEntryTimestamp pubKey.pubKey with
          | some err => .ok (false, some err)
          | none =>
            match sig.cert with
            | .error err => .ok (false, some err)
            | .ok none => .ok (true, none)
            | .ok (some cert) => verifyBundleCert p sig bundle.payload body cert

end Cosign.Verify
