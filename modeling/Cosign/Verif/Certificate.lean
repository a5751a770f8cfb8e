import Cosign.Verify.Certificate
import Cosign.Verif.Sample

/-!
# Acceptance of certificates

`ValidateAndUnpackCert` is meant to be a conjunction of checks, stated here without the order of the
source (`PassesIdentity`, `SctRule`). In the source a certificate that matches an identity is
accepted before the rule on embedded timestamps is looked at (`validateAndUnpackCert_succeeds`).
-/
namespace Cosign.Verif

open Cosign.Go Cosign.Encoding Cosign.Oci Cosign.Verify

variable {p : Platform} {cert : Certificate} {co : CheckOpts} {chains : Chains}

/-- A pattern of an identity is empty or compiles. -/
def PatternCompiles (p : Platform) (pattern : String) : Prop :=
  pattern = "" ∨ ∃ regex, p.compileRegexp pattern = .ok regex

/-- Every pattern of the identities compiles. -/
def IdentitiesCompile (p : Platform) (identities : List Identity) : Prop :=
  ∀ identity ∈ identities,
    PatternCompiles p identity.issuer ∧ PatternCompiles p identity.subject

/-- A pattern is empty or matches one of the texts. -/
def PatternMatches (p : Platform) (pattern : String) (texts : List String) : Prop :=
  pattern = "" ∨ ∃ regex, p.compileRegexp pattern = .ok regex ∧ ∃ text ∈ texts, regex text = true

/-- An identity matches a certificate in the issuer and in some subject alternative name. -/
def IdentityMatches (p : Platform) (cert : Certificate) (identity : Identity) : Prop :=
  PatternMatches p identity.issuer [getIssuer cert] ∧
    PatternMatches p identity.subject (getSubjectAlternateNames cert)

/-- There are no identities, or a single one matches. -/
def PassesIdentity (p : Platform) (cert : Certificate) (identities : List Identity) : Prop :=
  identities = [] ∨ ∃ identity ∈ identities, IdentityMatches p cert identity

/-- Every check but the one of embedded timestamps passes, with these chains to a root. -/
structure PassesOthers (p : Platform) (cert : Certificate) (co : CheckOpts) (chains : Chains) :
    Prop where
  loadable : ∃ verifier, p.loadVerifier cert.publicKey = .ok verifier
  /-- The certificate chains to a root through the intermediate certificates. -/
  trusted : trustedCert p cert co.rootCerts co.intermediateCerts = .ok chains
  /-- The expected email, if any, is among the emails. -/
  email : co.certEmail = "" ∨ co.certEmail ∈ cert.emailAddresses
  /-- The expected issuer, if any, is the issuer. -/
  issuer : co.certOidcIssuer = "" ∨ getIssuer cert = co.certOidcIssuer
  /-- The identities, if any, match. -/
  identity : PassesIdentity p cert co.identities

/-- An embedded timestamp is there if it is required, and verifies if it is there. -/
def SctRule (p : Platform) (cert : Certificate) (enforceSCT : Bool) (chains : Chains) : Prop :=
  ∃ contains, containsSCT p cert.raw = .ok contains ∧
    (enforceSCT = true → contains = true) ∧
    (contains = true → verifyEmbeddedSCT p chains.first = none)

/-- The checks on embedded timestamps pass exactly under the rule. -/
theorem checkSCT_eq_none {enforceSCT : Bool} :
    checkSCT p cert enforceSCT chains = none ↔ SctRule p cert enforceSCT chains := by
  unfold checkSCT SctRule
  cases containsSCT p cert.raw with
  | error err => simp
  | ok contains => cases contains <;> cases enforceSCT <;> simp

theorem patternMatches_eq (field : String) (texts : List String) {pattern : String}
    (compiles : PatternCompiles p pattern) :
    ∃ found, patternMatches p field pattern texts = .ok found ∧
      (found = true ↔ PatternMatches p pattern texts) := by
  unfold patternMatches PatternMatches
  by_cases blank : pattern = ""
  · exact ⟨true, by simp [blank], by simp [blank]⟩
  · obtain impossible | ⟨regex, compiled⟩ := compiles
    · exact absurd impossible blank
    · exact ⟨texts.any regex, by simp [blank, compiled], by simp [blank, compiled]⟩

/-- An identity whose patterns compile is evaluated to whether it matches. -/
theorem identityMatches_eq (cert : Certificate) {identity : Identity}
    (compiles : PatternCompiles p identity.issuer ∧ PatternCompiles p identity.subject) :
    ∃ found, identityMatches p cert identity = .ok found ∧
      (found = true ↔ IdentityMatches p cert identity) := by
  obtain ⟨issuer, issuerFound, issuerMatches⟩ :=
    patternMatches_eq "issuer" [getIssuer cert] compiles.1
  obtain ⟨subject, subjectFound, subjectMatches⟩ :=
    patternMatches_eq "subject" (getSubjectAlternateNames cert) compiles.2
  refine ⟨subject && issuer, ?_, ?_⟩
  · simp only [identityMatches, issuerFound, subjectFound, bind, Except.bind]
  · rw [Bool.and_eq_true, issuerMatches, subjectMatches, and_comm]
    rfl

/-- The identity loop is evaluated to whether some identity matches. -/
theorem someIdentityMatches_eq (cert : Certificate) {identities : List Identity}
    (compile : IdentitiesCompile p identities) :
    ∃ found, someIdentityMatches p cert identities = .ok found ∧
      (found = true ↔ ∃ identity ∈ identities, IdentityMatches p cert identity) := by
  induction identities with
  | nil => exact ⟨false, rfl, by simp⟩
  | cons identity rest ih =>
    obtain ⟨first, firstFound, firstMatches⟩ :=
      identityMatches_eq cert (compile identity List.mem_cons_self)
    obtain ⟨found, restFound, restMatches⟩ :=
      ih fun other member => compile other (List.mem_cons_of_mem identity member)
    cases first with
    | true => exact ⟨true, by simp [someIdentityMatches, firstFound], by simp [firstMatches.mp]⟩
    | false =>
      refine ⟨found, by simp [someIdentityMatches, firstFound, restFound], ?_⟩
      have other : ¬IdentityMatches p cert identity := by simp [← firstMatches]
      simp [restMatches, other]

theorem unset_or_iff {required : String} {met : Prop} :
    ¬(required ≠ "" ∧ ¬met) ↔ required = "" ∨ met := by
  rw [not_and_or, not_not, not_not]

/-- A certificate is accepted exactly when every check passes, except that the rule on embedded
timestamps counts only without identities. -/
theorem validateAndUnpackCert_succeeds (compile : IdentitiesCompile p co.identities) :
    (∃ verifier, validateAndUnpackCert p cert co = .ok verifier) ↔
      ∃ chains, PassesOthers p cert co chains ∧
        (co.identities = [] → SctRule p cert co.enforceSCT chains) := by
  constructor
  · rintro ⟨verifier, accepted⟩
    unfold validateAndUnpackCert at accepted
    split at accepted
    · cases accepted
    · rename_i loaded loadable
      split at accepted
      · cases accepted
      · rename_i chains trusted
        split at accepted
        · cases accepted
        · rename_i email
          split at accepted
          · cases accepted
          · rename_i issuer
            have email : co.certEmail = "" ∨ co.certEmail ∈ cert.emailAddresses :=
              unset_or_iff.mp email
            have issuer : co.certOidcIssuer = "" ∨ getIssuer cert = co.certOidcIssuer :=
              unset_or_iff.mp issuer
            obtain ⟨found, evaluated, matched⟩ := someIdentityMatches_eq cert compile
            split at accepted
            · rename_i given
              rw [evaluated] at accepted
              cases found with
              | false => cases accepted
              | true =>
                exact ⟨chains, ⟨⟨loaded, loadable⟩, trusted, email, issuer,
                  .inr (matched.mp rfl)⟩, fun omitted => absurd omitted given⟩
            · rename_i omitted
              split at accepted
              · cases accepted
              · rename_i rule
                exact ⟨chains, ⟨⟨loaded, loadable⟩, trusted, email, issuer,
                  .inl (not_not.mp omitted)⟩, fun _ => checkSCT_eq_none.mp rule⟩
  · rintro ⟨chains, ⟨⟨loaded, loadable⟩, trusted, email, issuer, identity⟩, rule⟩
    have email : ¬(co.certEmail ≠ "" ∧ co.certEmail ∉ cert.emailAddresses) :=
      unset_or_iff.mpr email
    have issuer : ¬(co.certOidcIssuer ≠ "" ∧ getIssuer cert ≠ co.certOidcIssuer) :=
      unset_or_iff.mpr issuer
    refine ⟨loaded, ?_⟩
    unfold validateAndUnpackCert
    simp only [loadable, trusted, email, issuer, if_false]
    by_cases omitted : co.identities = []
    · simp only [omitted, ne_eq, not_true_eq_false, if_false, checkSCT_eq_none.mpr (rule omitted)]
    · obtain impossible | matched := identity
      · exact absurd impossible omitted
      · obtain ⟨found, evaluated, iff⟩ := someIdentityMatches_eq cert compile
        simp only [ne_eq, omitted, not_false_eq_true, if_true, evaluated, iff.mpr matched]

/-- The specification of `ValidateAndUnpackCert`: every check passes. -/
def CertAcceptable (p : Platform) (cert : Certificate) (co : CheckOpts) : Prop :=
  ∃ chains, PassesOthers p cert co chains ∧ SctRule p cert co.enforceSCT chains

/-- **Acceptance is the specification exactly when there are no identities, or the rule on
embedded timestamps holds of every certificate that passes the other checks.** -/
theorem cert_acceptance_iff (compile : IdentitiesCompile p co.identities) :
    ((∃ verifier, validateAndUnpackCert p cert co = .ok verifier) ↔ CertAcceptable p cert co) ↔
      co.identities = [] ∨
        ∀ chains, PassesOthers p cert co chains → SctRule p cert co.enforceSCT chains := by
  rw [validateAndUnpackCert_succeeds compile]
  unfold CertAcceptable
  constructor
  · intro same
    by_cases omitted : co.identities = []
    · exact .inl omitted
    · refine .inr fun chains passes => ?_
      obtain ⟨chains', passes', rule⟩ :=
        same.mp ⟨chains, passes, fun impossible => absurd impossible omitted⟩
      cases passes.trusted.symm.trans passes'.trusted
      exact rule
  · rintro (omitted | rule)
    · simp [omitted]
    · constructor
      · rintro ⟨chains, passes, -⟩
        exact ⟨chains, passes, rule chains passes⟩
      · rintro ⟨chains, passes, holds⟩
        exact ⟨chains, passes, fun _ => holds⟩

/-- Options that require an embedded timestamp and the identity of the sample signer. -/
def enforcingOpts : CheckOpts where
  rootCerts := some CertPool.empty
  enforceSCT := true
  identities := [⟨"", "signer@example.com"⟩]

theorem enforcingOpts_compile : IdentitiesCompile samplePlatform enforcingOpts.identities := by
  intro identity member
  cases List.mem_singleton.mp member
  exact ⟨.inl rfl, .inr ⟨_, rfl⟩⟩

/-- A certificate without an embedded timestamp is accepted although one is required, because
it matches an identity. -/
theorem cert_without_sct_accepted :
    IdentitiesCompile samplePlatform enforcingOpts.identities ∧
      validateAndUnpackCert samplePlatform sampleCert enforcingOpts = .ok sampleVerifier ∧
      containsSCT samplePlatform sampleCert.raw = .ok false ∧
      ¬CertAcceptable samplePlatform sampleCert enforcingOpts := by
  refine ⟨enforcingOpts_compile, rfl, rfl, ?_⟩
  rintro ⟨chains, -, contains, found, required, -⟩
  cases found
  cases required rfl

/-- Options with the identity of the sample signer that do not require a timestamp. -/
def lenientOpts : CheckOpts := { enforcingOpts with enforceSCT := false }

/-- The condition holds where no timestamp is required, so that the certificate is accepted as it
should be, and decides the certificate above. -/
theorem cert_acceptance_iff_identity :
    (validateAndUnpackCert samplePlatform sampleCert lenientOpts = .ok sampleVerifier ∧
      CertAcceptable samplePlatform sampleCert lenientOpts) ∧
    IdentitiesCompile samplePlatform enforcingOpts.identities ∧
      (((∃ verifier, validateAndUnpackCert samplePlatform sampleCert enforcingOpts =
          .ok verifier) ↔ CertAcceptable samplePlatform sampleCert enforcingOpts) ↔
        enforcingOpts.identities = [] ∨
          ∀ chains, PassesOthers samplePlatform sampleCert enforcingOpts chains →
            SctRule samplePlatform sampleCert enforcingOpts.enforceSCT chains) := by
  have accepted : validateAndUnpackCert samplePlatform sampleCert lenientOpts =
      .ok sampleVerifier := rfl
  have compile : IdentitiesCompile samplePlatform lenientOpts.identities := enforcingOpts_compile
  have rule : ∀ chains, PassesOthers samplePlatform sampleCert lenientOpts chains →
      SctRule samplePlatform sampleCert lenientOpts.enforceSCT chains :=
    fun _ _ => ⟨false, rfl, nofun, nofun⟩
  have acceptable : (∃ verifier, validateAndUnpackCert samplePlatform sampleCert lenientOpts =
      .ok verifier) ↔ CertAcceptable samplePlatform sampleCert lenientOpts :=
    (cert_acceptance_iff compile).mpr (.inr rule)
  exact ⟨⟨accepted, acceptable.mp ⟨_, accepted⟩⟩, enforcingOpts_compile,
    cert_acceptance_iff enforcingOpts_compile⟩
end Cosign.Verif
