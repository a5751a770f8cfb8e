import Cosign.Verify.Bundle

/-!
# Online log evidence: searching the transparency log

`FindTlogEntry` searches the log for the entry that the signature, the payload and the key would
have, and checks of the answer only that its UUID is the hash of its body. `VerifyTLogEntry` checks
the inclusion proof and the signed entry timestamp. Every pointer of the answer may be nil.
-/
namespace Cosign.Verify

open Cosign.Go Cosign.Encoding Cosign.Oci

/-- `ComputeLeafHash` of an entry. -/
def computeLeafHash (p : Platform) (e : LogEntryAnon) : Call (Except GoError Bytes) := do
  let body ← assertString e.body
  match Base64.stdDecode body with
  | none => .ok (.error corruptInput)
  | some entryBytes => .ok (.ok (p.hashLeaf entryBytes))

/-- `verifyUUID`: the leaf hash of the entry is what its UUID decodes to. -/
def verifyUUID (p : Platform) (uuid : String) (e : LogEntryAnon) : Call (Option GoError) := do
  match ← computeLeafHash p e with
  | .error err => .ok (some err)
  | .ok computedLeafHash =>
    if computedLeafHash ≠ Hex.decodeString uuid then
      .ok (some ⟨"computed leaf hash did not match entry UUID"⟩)
    else .ok none

/-- `proposedEntry`: the entry a signature would have in the log. An empty signature means an
attestation, whose payload is the envelope. -/
def proposedEntry (p : Platform) (b64Sig : String) (payload pubKey : Bytes) :
    Except GoError (List ProposedEntry) :=
  match Base64.stdDecode b64Sig with
  | none => .error (corruptInput.wrap "decoding base64 signature")
  | some signature =>
    if signature.length = 0 then .ok [.intoto payload pubKey]
    else .ok [.hashedrekord "sha256" (Hex.encodeToString (p.sha256 payload)) signature pubKey]

/-- The end of `FindTlogEntry`: the only entry of the only map of the answer. -/
def soleEntry (p : Platform) (payload : List (GoMap LogEntryAnon)) :
    Call (Except GoError LogEntryAnon) :=
  match payload with
  | [] => .ok (.error ⟨"signature not found in transparency log"⟩)
  | _ :: _ :: _ => .ok (.error ⟨"multiple entries returned; this should not happen"⟩)
  | [logEntry] =>
    match logEntry.entries with
    | [⟨uuid, e⟩] => do
      match ← verifyUUID p uuid e with
      | some err => .ok (.error err)
      | none => .ok (.ok e)
    | _ => .ok (.error ⟨"UUID value can not be extracted"⟩)

/-- `FindTlogEntry`. -/
def findTlogEntry (p : Platform) (rekorClient : RekorClient) (b64Sig : String)
    (payload pubKey : Bytes) : Call (Except GoError LogEntryAnon) :=
  match proposedEntry p b64Sig payload pubKey with
  | .error err => .ok (.error err)
  | .ok proposed =>
    match rekorClient.searchLogQuery proposed with
    | .error err => .ok (.error (err.wrap "searching log query"))
    | .ok answer => soleEntry p answer

/-- The keys `VerifyTLogEntry` trusts: those of the trusted root and, when the environment says
so, the one the server gives. -/
def tlogKeys (p : Platform) (rekorClient : RekorClient) : Except GoError (GoMap RekorPubKey) :=
  match getRekorPubs p with
  | .error err => .error (err.wrap "unable to fetch Rekor public keys from TUF repository")
  | .ok rekorPubKeys =>
    if p.getenv addRekorPublicKeyFromRekor = "" then .ok rekorPubKeys
    else match rekorClient.getPublicKey with
      | .error err => .error (err.wrap "unable to fetch rekor public key from rekor")
      | .ok pubOK =>
        match pemToECDSAKey p (utf8Bytes pubOK) with
        | .error err => .error
            (err.wrap "error converting rekor PEM public key from rekor to ECDSAKey")
        | .ok pubFromAPI =>
          match getLogID p pubFromAPI with
          | .error err => .error (err.wrap "error generating log ID")
          | .ok keyID => .ok (rekorPubKeys.insert keyID ⟨pubFromAPI, .active⟩)

/-- The second half of `VerifyTLogEntry`: the signed entry timestamp under the key of the log
that the entry names. -/
def verifyEntrySET (p : Platform) (rekorClient : RekorClient) (payload : RekorPayload)
    (signedEntryTimestamp : Bytes) : Option GoError :=
  match tlogKeys p rekorClient with
  | .error err => some err
  | .ok rekorPubKeys =>
    match rekorPubKeys.lookup payload.logID with
    | none => some ⟨"rekor log public key not found for payload"⟩
    | some pubKey =>
      wrap (verifySET p payload signedEntryTimestamp pubKey.pubKey)
        "verifying signedEntryTimestamp"

/-- `VerifyTLogEntry`: the inclusion proof and then the signed entry timestamp. -/
def verifyTLogEntry (p : Platform) (rekorClient : RekorClient) (e : LogEntryAnon) :
    Call (Option GoError) :=
  match e.verification with
  | none => .ok (some ⟨"inclusion proof not provided"⟩)
  | some verification =>
    match verification.inclusionProof with
    | none => .ok (some ⟨"inclusion proof not provided"⟩)
    | some inclusionProof => do
      let hashes := inclusionProof.hashes.map Hex.decodeString
      let rootHash ← deref inclusionProof.rootHash
      let body ← assertString e.body
      match Base64.stdDecode body with
      | none => .ok (some corruptInput)
      | some entryBytes =>
        let logIndex ← deref inclusionProof.logIndex
        let treeSize ← deref inclusionProof.treeSize
        match p.verifyInclusionProof logIndex treeSize hashes (Hex.decodeString rootHash)
            (p.hashLeaf entryBytes) with
        | some err => .ok (some (err.wrap "verifying inclusion proof"))
        | none =>
          let integratedTime ← deref e.integratedTime
          let index ← deref e.logIndex
          let logID ← deref e.logID
          .ok (verifyEntrySET p rekorClient ⟨e.body, integratedTime, index, logID⟩
            verification.signedEntryTimestamp)

/-- The search of a signature under a key or certificate in PEM. -/
def findSignature (p : Platform) (rekorClient : RekorClient) (sig : Signature)
    (pem : Except GoError Bytes) : Call (Except GoError LogEntryAnon) :=
  match pem with
  | .error err => .ok (.error err)
  | .ok pemBytes =>
    match sig.base64Signature with
    | .error err => .ok (.error err)
    | .ok b64sig =>
      match sig.payload with
      | .error err => .ok (.error err)
      | .ok payload => findTlogEntry p rekorClient b64sig payload pemBytes

/-- `tlogValidatePublicKey`: the entry is found; nothing else about it is checked. -/
def tlogValidatePublicKey (p : Platform) (rekorClient : RekorClient) (pub : PublicKey)
    (sig : Signature) : Call (Option GoError) := do
  match ← findSignature p rekorClient sig (p.marshalPublicKeyToPEM pub) with
  | .error err => .ok (some err)
  | .ok _ => .ok none

/-- `tlogValidateCertificate`: the entry is found and verified, and its integrated time is
within the validity period of the certificate. -/
def tlogValidateCertificate (p : Platform) (rekorClient : RekorClient) (sig : Signature) :
    Call (Option GoError) :=
  match sig.cert with
  | .error err => .ok (some err)
  | .ok cert => do
    match ← findSignature p rekorClient sig (p.marshalCertificateToPEM cert) with
    | .error err => .ok (some err)
    | .ok e =>
      match ← verifyTLogEntry p rekorClient e with
      | some err => .ok (some err)
      | none =>
        let integratedTime ← deref e.integratedTime
        let cert ← deref cert
        .ok (checkExpiry p cert (Time.unix integratedTime))

end Cosign.Verify
