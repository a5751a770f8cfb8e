import Cosign.Verif.BlobEvidence
import Cosign.Verif.Certificate

/-!
# The identity flags of verify-blob

The flags for the email, the issuer and the embedded timestamp are looked at for a certificate file
with a chain and for a certificate from the log, both of which go through `ValidateAndUnpackCert`; a
certificate file without a chain and a certificate in a bundle file are taken as they are
(`blob_identity_iff`).
-/
namespace Cosign.Verif

open Cosign.Go Cosign.Encoding Cosign.Oci Cosign.Verify Cosign.Cli

variable {p : Platform} {env : BlobEnv} {args : VerifyBlobArgs} {cert : Certificate}
  {verifier : Verifier}

/-- The certificate is as the flags ask. -/
structure HonoursFlags (p : Platform) (args : VerifyBlobArgs) (cert : Certificate) : Prop where
  /-- The requested email, if any, is among the emails. -/
  email : args.certEmail = "" ∨ args.certEmail ∈ cert.emailAddresses
  /-- The requested issuer, if any, is the issuer. -/
  issuer : args.certOidcIssuer = "" ∨ getIssuer cert = args.certOidcIssuer
  /-- A timestamp is embedded if it is required. -/
  sct : args.enforceSCT = true → containsSCT p cert.raw = .ok true

theorem honoursFlags_of_validated {co : CheckOpts} (anyone : co.identities = [])
    (email : co.certEmail = args.certEmail) (issuer : co.certOidcIssuer = args.certOidcIssuer)
    (sct : co.enforceSCT = args.enforceSCT)
    (validated : validateAndUnpackCert p cert co = .ok verifier) :
    HonoursFlags p args cert := by
  have compile : IdentitiesCompile p co.identities := by
    rw [anyone]
    intro identity member
    cases member
  obtain ⟨chains, passes, rule⟩ :=
    (validateAndUnpackCert_succeeds compile).mp ⟨verifier, validated⟩
  obtain ⟨contains, found, required, -⟩ := rule anyone
  refine ⟨email ▸ passes.email, issuer ▸ passes.issuer, ?_⟩
  intro enforced
  rw [found, required (sct.trans enforced)]

/-- The signature of the blob verified with the key of a certificate: the selected one, or one
from the log. -/
inductive VerifiedByCert (env : BlobEnv) (args : VerifyBlobArgs) : Certificate → Prop
  /-- The selected certificate. -/
  | selected {sig blobBytes : Bytes} {b64sig : String} {verifier : Verifier}
      {cert : Certificate} :
      Given env args sig b64sig blobBytes →
      selectVerifier env args = .ok (.ok (some (verifier, some cert))) →
      (blobVerifier env blobBytes verifier).verifySignature sig blobBytes = none →
      VerifiedByCert env args cert
  /-- The certificate in an entry of the log. -/
  | log {sig blobBytes : Bytes} {b64sig : String} {rClient : LogClient} {uuids : List String}
      {index : Nat} {uuid : String} {e : LogEntryAnon} {cert : Certificate}
      {verifier : Verifier} :
      Given env args sig b64sig blobBytes → selectVerifier env args = .ok (.ok none) →
      env.newRekorClient 0 args.ko.rekorURL = .ok rClient →
      findTLogEntriesByPayload env.platform rClient blobBytes = .ok uuids →
      uuids[index]? = some uuid →
      LogCandidate env args rClient sig blobBytes index uuid e cert verifier →
      VerifiedByCert env args cert

/-- A certificate that is used without validation: from a file without a chain, or from a bundle
file. -/
structure TakenAsIs (env : BlobEnv) (args : VerifyBlobArgs) (cert : Certificate) : Prop where
  /-- No key is given. -/
  keyless : args.ko.keyRef = "" ∧ args.ko.sk = false
  /-- Where the certificate comes from. -/
  source : (args.certRef ≠ "" ∧ args.certChain = "" ∧
      loadCertFromFileOrURL env args.certRef = .ok cert) ∨
    (args.certRef = "" ∧ args.ko.bundlePath ≠ "" ∧
      ∃ b, fetchLocalSignedPayloadFromPath env.platform args.ko.bundlePath = .ok (some b) ∧
        b.cert ≠ "" ∧ loadCertFromPEM env (bundleCertBytes b) = .ok cert)

/-- The key of a certificate is selected exactly when it can be loaded. -/
theorem loadVerifier_selected {loaded : Certificate} :
    (env.platform.loadVerifier loaded.publicKey).map (fun key => (key, some loaded)) =
        .ok (verifier, some cert) ↔
      loaded = cert ∧ env.platform.loadVerifier cert.publicKey = .ok verifier := by
  constructor
  · intro selected
    cases loads : env.platform.loadVerifier loaded.publicKey with
    | error err => simp [loads, Except.map] at selected
    | ok key =>
      simp only [loads, Except.map, Except.ok.injEq, Prod.mk.injEq, Option.some.injEq] at selected
      obtain ⟨rfl, rfl⟩ := selected
      exact ⟨rfl, loads⟩
  · rintro ⟨rfl, loads⟩
    rw [loads]
    rfl

theorem certVerifier_unchained (unchained : args.certChain = "") :
    certVerifier env args = .ok (verifier, some cert) ↔
      loadCertFromFileOrURL env args.certRef = .ok cert ∧
        env.platform.loadVerifier cert.publicKey = .ok verifier := by
  unfold certVerifier
  cases loadCertFromFileOrURL env args.certRef with
  | error err => simp [bind, Except.bind]
  | ok loaded =>
    simp only [Except.ok.injEq, ← loadVerifier_selected, unchained, if_true, bind, Except.bind]
    cases env.platform.loadVerifier loaded.publicKey <;> rfl

/-- A certificate file with a chain is validated under the flags. -/
theorem certVerifier_chained (chained : args.certChain ≠ "")
    (selected : certVerifier env args = .ok (verifier, some cert)) :
    HonoursFlags env.platform args cert := by
  unfold certVerifier at selected
  cases loaded : loadCertFromFileOrURL env args.certRef with
  | error err => simp [loaded, bind, Except.bind] at selected
  | ok found =>
    cases chain : loadCertChainFromFileOrURL env args.certChain with
    | error err => simp [loaded, chain, chained, bind, Except.bind] at selected
    | ok links =>
      simp only [loaded, chain, chained, if_false, bind, Except.bind,
        validateAndUnpackCertWithChain] at selected
      cases last : links.getLast? with
      | none => simp [last] at selected
      | some root =>
        simp only [last] at selected
        split at selected
        · cases selected
        · rename_i key validated
          simp only [Except.ok.injEq, Prod.mk.injEq, Option.some.injEq] at selected
          obtain ⟨-, rfl⟩ := selected
          exact honoursFlags_of_validated rfl rfl rfl rfl validated

theorem bundleVerifier_eq_ok {bundlePath : String} :
    bundleVerifier env bundlePath = .ok (.ok (verifier, some cert)) ↔
      ∃ b, fetchLocalSignedPayloadFromPath env.platform bundlePath = .ok (some b) ∧
        b.cert ≠ "" ∧ loadCertFromPEM env (bundleCertBytes b) = .ok cert ∧
        env.platform.loadVerifier cert.publicKey = .ok verifier := by
  unfold bundleVerifier
  rcases fetchLocalSignedPayloadFromPath env.platform bundlePath with err | (_ | b)
  · simp
  · simp [deref, bind, Except.bind]
  · simp only [deref, bind, Except.bind, Except.ok.injEq, Option.some.injEq, exists_eq_left']
    by_cases blank : b.cert = ""
    · simp [blank]
    · simp only [blank, if_false, ne_eq, not_false_eq_true, true_and]
      cases loaded : loadCertFromPEM env (bundleCertBytes b) with
      | error err =>
        cases loadPublicKeyRaw env (bundleCertBytes b) <;> simp [Except.map]
      | ok found =>
        simp only [Except.ok.injEq, ← loadVerifier_selected]

/-- A key is selected with a certificate exactly from a certificate file or a bundle file. -/
theorem selectVerifier_cert :
    selectVerifier env args = .ok (.ok (some (verifier, some cert))) ↔
      (args.ko.keyRef = "" ∧ args.ko.sk = false) ∧
        ((args.certRef ≠ "" ∧ certVerifier env args = .ok (verifier, some cert)) ∨
          (args.certRef = "" ∧ args.ko.bundlePath ≠ "" ∧
            bundleVerifier env args.ko.bundlePath = .ok (.ok (verifier, some cert)))) := by
  unfold selectVerifier
  by_cases keyed : args.ko.keyRef = ""
  · cases token : args.ko.sk with
    | true =>
      rcases loaded : env.getKeyWithSlot args.ko.slot with err | (err | key) <;>
        simp [keyed, token, loaded, wrapping, Except.mapError, bind, Except.bind]
    | false =>
      by_cases filed : args.certRef = ""
      · by_cases bundled : args.ko.bundlePath = ""
        · by_cases experimental : enableExperimental env.platform = true <;>
            simp [keyed, token, filed, bundled, experimental]
        · rcases outcome : bundleVerifier env args.ko.bundlePath with panic | (err | selected) <;>
            simp [keyed, token, filed, bundled, outcome, Except.map, bind, Except.bind]
      · cases certVerifier env args <;> simp [keyed, token, filed, Except.map]
  · cases loaded : env.publicKeyFromKeyRef args.ko.keyRef <;>
      simp [keyed, loaded, wrapping, Except.mapError, Except.map]

/-- A certificate that was selected is taken as it is or is as the flags ask. -/
theorem selected_taken_or_honours
    (selects : selectVerifier env args = .ok (.ok (some (verifier, some cert)))) :
    TakenAsIs env args cert ∨ HonoursFlags env.platform args cert := by
  obtain ⟨keyless, ⟨filed, selected⟩ | ⟨unfiled, bundled, selected⟩⟩ :=
    selectVerifier_cert.mp selects
  · by_cases unchained : args.certChain = ""
    · have loaded := ((certVerifier_unchained unchained).mp selected).1
      exact .inl ⟨keyless, .inl ⟨filed, unchained, loaded⟩⟩
    · exact .inr (certVerifier_chained unchained selected)
  · obtain ⟨b, fetched, written, loaded, -⟩ := bundleVerifier_eq_ok.mp selected
    exact .inl ⟨keyless, .inr ⟨unfiled, bundled, b, fetched, written, loaded⟩⟩

/-- A run that selects a key from a certificate that is taken as it is selects that
certificate. -/
theorem TakenAsIs.selected (taken : TakenAsIs env args cert)
    {chosen : Option (Verifier × Option Certificate)}
    (selects : selectVerifier env args = .ok (.ok chosen)) :
    ∃ verifier, chosen = some (verifier, some cert) := by
  cases loads : env.platform.loadVerifier cert.publicKey with
  | ok verifier =>
    refine ⟨verifier, ?_⟩
    have here : selectVerifier env args = .ok (.ok (some (verifier, some cert))) := by
      apply selectVerifier_cert.mpr
      refine ⟨taken.keyless, ?_⟩
      obtain ⟨filed, unchained, loaded⟩ | ⟨unfiled, bundled, b, fetched, written, loaded⟩ :=
        taken.source
      · exact .inl ⟨filed, (certVerifier_unchained unchained).mpr ⟨loaded, loads⟩⟩
      · exact .inr ⟨unfiled, bundled,
          bundleVerifier_eq_ok.mpr ⟨b, fetched, written, loaded, loads⟩⟩
    exact Except.ok.inj (Except.ok.inj (selects.symm.trans here))
  | error err =>
    obtain ⟨unkeyed, untokened⟩ := taken.keyless
    unfold selectVerifier at selects
    obtain ⟨filed, unchained, loaded⟩ | ⟨unfiled, bundled, b, fetched, written, loaded⟩ :=
      taken.source
    · simp [unkeyed, untokened, filed, certVerifier, loaded, unchained, loads, Except.map, bind,
        Except.bind] at selects
    · simp [unkeyed, untokened, unfiled, bundled, bundleVerifier, fetched, written, loaded, loads,
        deref, Except.map, bind, Except.bind] at selects

/-- **A run that succeeds honours the flags exactly when a certificate that is taken as it is
happens to be as they ask.** -/
theorem blob_identity_iff (succeeds : verifyBlobCmd env args = .ok none) :
    (∀ cert, VerifiedByCert env args cert → HonoursFlags env.platform args cert) ↔
      ∀ cert, TakenAsIs env args cert → HonoursFlags env.platform args cert := by
  constructor
  · intro honoured cert taken
    apply honoured
    obtain ⟨sig, b64sig, blobBytes, chosen, given, selects⟩ := verifyBlobCmd_reads succeeds
    obtain ⟨verifier, rfl⟩ := taken.selected selects
    rw [verifyBlobCmd_given given selects] at succeeds
    refine .selected given selects ?_
    cases outcome : (blobVerifier env blobBytes verifier).verifySignature sig blobBytes with
    | none => rfl
    | some err => simp [verifyWithKey, outcome] at succeeds
  · intro asTaken cert verified
    cases verified with
    | selected given selects verified =>
      obtain taken | honours := selected_taken_or_honours selects
      · exact asTaken cert taken
      · exact honours
    | log given selects made searched listed candidate =>
      exact honoursFlags_of_validated rfl rfl rfl rfl candidate.validated

/-- Verification of the blob with a certificate file and an email that it does not have. -/
def otherEmailArgs : VerifyBlobArgs where
  certRef := "cert.pem"
  certEmail := "other@example.com"
  sigRef := "AQ=="
  blobRef := "blob"

theorem otherEmailArgs_run : verifyBlobCmd (sampleBlobEnv "" []) otherEmailArgs = .ok none := by
  decide +kernel

/-- The certificate in the file is used although it does not have the requested email. -/
theorem other_email_accepted :
    verifyBlobCmd (sampleBlobEnv "" []) otherEmailArgs = .ok none ∧
      VerifiedByCert (sampleBlobEnv "" []) otherEmailArgs sampleCert ∧
      otherEmailArgs.certEmail = "other@example.com" ∧
      sampleCert.emailAddresses = ["signer@example.com"] ∧
      ¬HonoursFlags (sampleBlobEnv "" []).platform otherEmailArgs sampleCert := by
  refine ⟨otherEmailArgs_run, ?_, rfl, rfl, ?_⟩
  · have given : Given (sampleBlobEnv "" []) otherEmailArgs [1] "AQ==" samplePayload :=
      ⟨by decide +kernel, by decide +kernel, rfl⟩
    have selects : selectVerifier (sampleBlobEnv "" []) otherEmailArgs =
        .ok (.ok (some (sampleVerifier, some sampleCert))) :=
      selectVerifier_cert.mpr ⟨⟨rfl, rfl⟩, .inl ⟨by decide, rfl⟩⟩
    exact .selected given selects rfl
  · intro honours
    have email := honours.email
    revert email
    decide +kernel

/-- Verification with the email of the certificate. -/
def ownEmailArgs : VerifyBlobArgs := { otherEmailArgs with certEmail := "signer@example.com" }

/-- The condition holds of the run with the email of the certificate, which honours the flags, and
decides the other. -/
theorem blob_identity_iff_own_email :
    (verifyBlobCmd (sampleBlobEnv "" []) ownEmailArgs = .ok none ∧
      ∀ cert, VerifiedByCert (sampleBlobEnv "" []) ownEmailArgs cert →
          HonoursFlags (sampleBlobEnv "" []).platform ownEmailArgs cert) ∧
    verifyBlobCmd (sampleBlobEnv "" []) otherEmailArgs = .ok none ∧
      ((∀ cert, VerifiedByCert (sampleBlobEnv "" []) otherEmailArgs cert →
          HonoursFlags (sampleBlobEnv "" []).platform otherEmailArgs cert) ↔
        ∀ cert, TakenAsIs (sampleBlobEnv "" []) otherEmailArgs cert →
          HonoursFlags (sampleBlobEnv "" []).platform otherEmailArgs cert) := by
  have run : verifyBlobCmd (sampleBlobEnv "" []) ownEmailArgs = .ok none := by decide +kernel
  refine ⟨⟨run, (blob_identity_iff run).mpr ?_⟩, otherEmailArgs_run,
    blob_identity_iff otherEmailArgs_run⟩
  intro cert taken
  obtain ⟨-, -, loaded⟩ | ⟨unfiled, -⟩ := taken.source
  · have file : loadCertFromFileOrURL (sampleBlobEnv "" []) "cert.pem" = .ok sampleCert := rfl
    cases file.symm.trans loaded
    exact ⟨.inr List.mem_cons_self, .inl rfl, nofun⟩
  · exact absurd unfiled (by decide)
end Cosign.Verif
