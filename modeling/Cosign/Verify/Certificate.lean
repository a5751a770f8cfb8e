import Cosign.Verify.Platform

/-!
# Certificates: chains, identities, embedded timestamps and expiry

`ValidateAndUnpackCert` turns a certificate into a verifier after a sequence of checks, in the order
of the source: once an identity matches, the verifier is returned before an embedded SCT is looked
for. `CheckExpiry` is separate, because the chain is checked at the start of the certificate's own
validity period.
-/
namespace Cosign.Verify

open Cosign.Go Cosign.Encoding Cosign.Oci

/-- Environment variable that overrides the CT log key. -/
def altCTLogPublicKeyLocation : String := "SIGSTORE_CT_LOG_PUBLIC_KEY_FILE"

/-- `ContainsSCT`. -/
def containsSCT (p : Platform) (cert : Bytes) : Except GoError Bool :=
  match p.parseSCTsFromCertificate cert with
  | .error err => .error err
  | .ok embeddedSCTs => .ok (decide (embeddedSCTs.length ≠ 0))

/-- `getAlternatePublicKey`: PEM or DER content, PKIX before PKCS1. -/
def getAlternatePublicKey (p : Platform) (input : Bytes) : Except GoError PublicKey :=
  let derBytes := ((p.pemDecoder.decode input).map (·.1)).getD input
  match p.parsePKIXPublicKey derBytes with
  | .ok pubKey => .ok pubKey
  | .error _ =>
    match p.parsePKCS1PublicKey derBytes with
    | .ok pubKey => .ok pubKey
    | .error err => .error (err.wrap "failed to parse alternate public key")

/-- The keys of the CT logs by key identifier, from the trusted root. -/
def ctfeKeys (p : Platform) : List TargetFile → Except GoError (List (Bytes × PublicKey))
  | [] => .ok []
  | target :: rest =>
    match p.unmarshalPEMToPublicKey target.target with
    | .error err => .error err
    | .ok pub =>
      if pub.kind ≠ .ecdsa then
        .error ⟨"invalid public key: was " ++ pub.kind.typeName ++ ", require *ecdsa.PublicKey"⟩
      else match p.ctLogID pub with
        | .error err => .error (err.wrap "error getting CTFE public key hash")
        | .ok keyID =>
          match ctfeKeys p rest with
          | .error err => .error err
          | .ok keys => .ok ((keyID, pub) :: keys)

/-- The keys that SCTs are verified with: the one named by the environment, or those of the
trusted root. A later target of the same log replaces an earlier one. -/
def sctKeys (p : Platform) : Except GoError (List (Bytes × PublicKey)) :=
  let rootEnv := p.getenv altCTLogPublicKeyLocation
  if rootEnv = "" then
    match p.ctfeTargets with
    | .error err => .error err
    | .ok targets => (ctfeKeys p targets).map List.reverse
  else match p.readFile rootEnv with
    | .error err => .error (err.wrap "error reading alternate public key file")
    | .ok raw =>
      match getAlternatePublicKey p raw with
      | .error err => .error (err.wrap "error parsing alternate public key from the file")
      | .ok pubKey =>
        match p.ctLogID pubKey with
        | .error err => .error (err.wrap "error getting CTFE public key hash")
        | .ok keyID => .ok [(keyID, pubKey)]

/-- Verify embedded SCTs in turn; each needs the key of its log. -/
def verifyEmbedded (p : Platform) (keys : List (Bytes × PublicKey)) (chain : List Bytes) :
    List Sct → Option GoError
  | [] => none
  | sct :: rest =>
    match keys.lookup sct.keyID with
    | none => some ⟨"ctfe public key not found for embedded SCT"⟩
    | some pubKey =>
      match p.verifySCTSignature pubKey chain sct true with
      | some err => some (err.wrap "error verifying embedded SCT")
      | none => verifyEmbedded p keys chain rest

/-- `VerifySCT`: SCTs embedded in the certificate, or else the detached one. -/
def verifySCT (p : Platform) (certPEM chainPEM rawSCT : Bytes) : Option GoError :=
  match sctKeys p with
  | .error err => some err
  | .ok keys =>
    if keys.isEmpty then some ⟨"none of the CTFE keys have been found"⟩
    else match p.certificateFromPEM certPEM with
      | .error err => some err
      | .ok cert =>
        match p.certificatesFromPEM chainPEM with
        | .error err => some err
        | .ok [] => some ⟨"no certificate chain found"⟩
        | .ok (issuer :: _) =>
          match p.parseSCTsFromCertificate certPEM with
          | .error err => some err
          | .ok (sct :: scts) => verifyEmbedded p keys [cert, issuer] (sct :: scts)
          | .ok [] =>
            if rawSCT.isEmpty then some ⟨"no SCT found"⟩
            else match p.parseAddChainResponse rawSCT with
              | .error err => some err
              | .ok sct =>
                match keys.lookup sct.keyID with
                | none => some ⟨"ctfe public key not found"⟩
                | some pubKey => wrap (p.verifySCTSignature pubKey [cert] sct false)
                    "error verifying SCT"

/-- `VerifyEmbeddedSCT` of a chain from leaf to root. -/
def verifyEmbeddedSCT (p : Platform) : List Certificate → Option GoError
  | cert :: issuer :: rest =>
    match p.marshalCertificateToPEM (some cert) with
    | .error err => some err
    | .ok certPEM =>
      match p.marshalCertificatesToPEM (issuer :: rest) with
      | .error err => some err
      | .ok chainPEM => verifySCT p certPEM chainPEM []
  | _ => some ⟨"certificate chain must contain at least a certificate and its issuer"⟩

/-- `getSubjectAlternateNames`: DNS names, email addresses, IP addresses and URIs. -/
def getSubjectAlternateNames (cert : Certificate) : List String :=
  cert.dnsNames ++ cert.emailAddresses ++ cert.ipAddresses ++ cert.uris

/-- Object identifier of the OIDC issuer extension. -/
def issuerOID : List Nat := [1, 3, 6, 1, 4, 1, 57264, 1, 1]

/-- `getIssuer`: the first issuer extension, or the empty string. -/
def getIssuer (cert : Certificate) : String :=
  match cert.extensions.find? fun ext => ext.id == issuerOID with
  | some ext => ext.value
  | none => ""

/-- `TrustedCert`: the chain is checked at the start of the certificate's validity period, so
it is trusted forever. -/
def trustedCert (p : Platform) (cert : Certificate) (roots intermediates : Option CertPool) :
    Except GoError Chains :=
  p.verifyCertificate cert ⟨cert.notBefore, roots, intermediates⟩

/-- Whether a pattern of an identity matches one of the texts; an empty pattern is no
constraint. -/
def patternMatches (p : Platform) (field pattern : String) (texts : List String) :
    Except GoError Bool :=
  if pattern ≠ "" then
    match p.compileRegexp pattern with
    | .error err => .error ⟨"malformed " ++ field ++ " in identity: " ++ pattern ++ " : " ++
        err.message⟩
    | .ok regex => .ok (texts.any regex)
  else .ok true

/-- Whether one identity matches a certificate: its issuer pattern and then its subject
pattern, each compiled even when the other does not match. -/
def identityMatches (p : Platform) (cert : Certificate) (identity : Identity) :
    Except GoError Bool := do
  let issuerMatches ← patternMatches p "issuer" identity.issuer [getIssuer cert]
  let subjectMatches ←
    patternMatches p "subject" identity.subject (getSubjectAlternateNames cert)
  .ok (subjectMatches && issuerMatches)

/-- The identity loop: it stops at the first identity that matches or cannot be compiled. -/
def someIdentityMatches (p : Platform) (cert : Certificate) : List Identity → Except GoError Bool
  | [] => .ok false
  | identity :: rest =>
    match identityMatches p cert identity with
    | .error err => .error err
    | .ok true => .ok true
    | .ok false => someIdentityMatches p cert rest

/-- The checks on embedded SCTs at the end of `ValidateAndUnpackCert`. -/
def checkSCT (p : Platform) (cert : Certificate) (enforceSCT : Bool) (chains : Chains) :
    Option GoError :=
  match containsSCT p cert.raw with
  | .error err => some err
  | .ok contains =>
    if enforceSCT && !contains then
      some ⟨"certificate does not include required embedded SCT"⟩
    else if contains then verifyEmbeddedSCT p chains.first
    else none

/-- `ValidateAndUnpackCert`: a verifier from a certificate that passes the checks. -/
def validateAndUnpackCert (p : Platform) (cert : Certificate) (co : CheckOpts) :
    Except GoError Verifier :=
  match p.loadVerifier cert.publicKey with
  | .error err => .error (err.wrap "invalid certificate found on signature")
  | .ok verifier =>
    match trustedCert p cert co.rootCerts co.intermediateCerts with
    | .error err => .error err
    | .ok chains =>
      if co.certEmail ≠ "" ∧ co.certEmail ∉ cert.emailAddresses then
        .error ⟨"expected email not found in certificate"⟩
      else if co.certOidcIssuer ≠ "" ∧ getIssuer cert ≠ co.certOidcIssuer then
        .error ⟨"expected oidc issuer not found in certificate"⟩
      else if co.identities ≠ [] then
        match someIdentityMatches p cert co.identities with
        | .error err => .error err
        | .ok true => .ok verifier
        | .ok false => .error
            ⟨"none of the expected identities matched what was in the certificate"⟩
      else match checkSCT p cert co.enforceSCT chains with
        | some err => .error err
        | none => .ok verifier

/-- `ValidateAndUnpackCertWithChain`: the chain ends with the root, which with the certificates
before it replaces the caller's pools. -/
def validateAndUnpackCertWithChain (p : Platform) (cert : Certificate) (chain : List Certificate)
    (co : CheckOpts) : CheckOpts × Except GoError Verifier :=
  match chain.getLast? with
  | none => (co, .error ⟨"no chain provided to validate certificate"⟩)
  | some root =>
    let co := { co with
      rootCerts := some (CertPool.empty.addCert root)
      intermediateCerts := some (chain.dropLast.foldl CertPool.addCert CertPool.empty) }
    (co, validateAndUnpackCert p cert co)

/-- `CheckExpiry`: the instant is within the validity period of the certificate. The second
message formats the end of the period where it speaks of its start, as the source does. -/
def checkExpiry (p : Platform) (cert : Certificate) (time : Time) : Option GoError :=
  if cert.notAfter.before time then
    some ⟨"certificate expired before signatures were entered in log: " ++
      p.formatRFC3339 cert.notAfter ++ " is before " ++ p.formatRFC3339 time⟩
  else if cert.notBefore.after time then
    some ⟨"certificate was issued after signatures were entered in log: " ++
      p.formatRFC3339 cert.notAfter ++ " is after " ++ p.formatRFC3339 time⟩
  else none

/-- Expiry passes exactly within the validity period. -/
theorem checkExpiry_eq_none {p : Platform} {cert : Certificate} {time : Time} :
    checkExpiry p cert time = none ↔ cert.ValidAt time := by
  unfold checkExpiry Certificate.ValidAt Time.before Time.after
  by_cases late : cert.notAfter.seconds < time.seconds
  · simp [late]
  · by_cases early : time.seconds < cert.notBefore.seconds
    · simp [late, early]
    · simp [late, early, Int64.not_lt.mp late, Int64.not_lt.mp early]

end Cosign.Verify
