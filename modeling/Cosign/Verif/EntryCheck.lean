import Cosign.Verify.Image
import Cosign.Verif.Bundle

/-!
# The check of one entry

The bodies of the two loops differ in how they verify the signature of an entry and report a
verified bundle. `entryCheck` is the rest, of which both are instances (`verifyImageSignature_eq`,
`verifyAttestation_eq`). Its outcome does not depend on the intermediate certificates in the
options, although it overwrites them (`entryVerdict_withPool`).
-/
namespace Cosign.Verif

open Cosign.Go Cosign.Encoding Cosign.Oci Cosign.Verify

variable {p : Platform} {noun : String} {verify : Verifier → Signature → Option GoError}
  {sig : Signature} {h : Hash} {co : CheckOpts} {pool : Option CertPool} {flag : Bool}

/-- The options with other intermediate certificates. -/
def withPool (co : CheckOpts) (pool : Option CertPool) : CheckOpts :=
  { co with intermediateCerts := pool }

/-- The check of one entry: the options afterwards, whether its bundle was verified, and the
error. -/
def entryCheck (p : Platform) (noun : String) (verify : Verifier → Signature → Option GoError)
    (sig : Signature) (h : Hash) (co : CheckOpts) : Call (CheckOpts × Bool × Option GoError) :=
  match entryVerifier p noun sig co with
  | (co, .error err) => .ok (co, false, some err)
  | (co, .ok verifier) =>
    match verify verifier sig with
    | some err => .ok (co, false, some err)
    | none =>
      match checkClaims sig h co with
      | some err => .ok (co, false, some err)
      | none => do
        let (bundleVerified, err) ← imageSignatureEvidence p sig co
        .ok (co, bundleVerified, err)

/-- `VerifyImageSignature` is the check with the signature over the payload. -/
theorem verifyImageSignature_eq :
    verifyImageSignature p sig h co = entryCheck p "signature" verifyOCISignature sig h co := rfl

/-- The evidence of an attestation is that of a signature, added to the captured flag. -/
theorem attestationEvidence_eq :
    attestationEvidence p sig co flag =
      (imageSignatureEvidence p sig co).map fun outcome => (flag || outcome.1, outcome.2) := by
  unfold attestationEvidence imageSignatureEvidence
  cases verifyBundle p sig with
  | error panic => rfl
  | ok outcome =>
    obtain ⟨verified, err⟩ := outcome
    simp only [bind, Except.bind]
    split
    · simp [Except.map]
    · cases verified with
      | true => simp [Except.map]
      | false =>
        cases client : co.rekorClient with
        | none => simp [Except.map]
        | some rekorClient =>
          simp only [Bool.or_false]
          cases tlogValidate p co rekorClient sig <;> simp [Except.map]

/-- The closure over attestations is the check with the signature over the envelope, and adds
to the captured flag. -/
theorem verifyAttestation_eq :
    verifyAttestation p sig h co flag =
      (entryCheck p "attestation" (verifyOCIAttestation p) sig h co).map
        fun outcome => (outcome.1, flag || outcome.2.1, outcome.2.2) := by
  unfold verifyAttestation entryCheck
  generalize entryVerifier p "attestation" sig co = outcome
  obtain ⟨after, verifier⟩ := outcome
  cases verifier with
  | error err => simp [Except.map]
  | ok verifier =>
    cases signed : verifyOCIAttestation p verifier sig with
    | some err => simp [signed, Except.map]
    | none =>
      cases claims : checkClaims sig h after with
      | some err => simp [signed, claims, Except.map]
      | none =>
        simp only [signed, claims, attestationEvidence_eq]
        cases imageSignatureEvidence p sig after <;> rfl

/-- The entry verifies with a verifier: the caller's key, or else its own certificate, which is
validated with the intermediate certificates of its own chain. -/
def VerifiesWith (p : Platform) (sig : Signature) (co : CheckOpts) (verifier : Verifier) : Prop :=
  co.sigVerifier = some verifier ∨
    co.sigVerifier = none ∧ ∃ cert chain, sig.cert = .ok (some cert) ∧ sig.chain = .ok chain ∧
      validateAndUnpackCert p cert (withPool co (intermediatesOf chain)) = .ok verifier

theorem entryVerifier_eq_ok {verifier : Verifier} :
    (entryVerifier p noun sig co).2 = .ok verifier ↔ VerifiesWith p sig co verifier := by
  unfold entryVerifier VerifiesWith
  cases given : co.sigVerifier with
  | some key => simp
  | none =>
    cases certified : sig.cert with
    | error err => simp
    | ok found =>
      cases found with
      | none => simp
      | some cert =>
        cases chained : sig.chain with
        | error err => simp
        | ok chain => simp [withPool, given]

/-- `entryVerifier` writes the intermediate certificates at most. -/
theorem entryVerifier_opts (p : Platform) (noun : String) (sig : Signature) (co : CheckOpts) :
    ∃ pool, (entryVerifier p noun sig co).1 = withPool co pool := by
  unfold entryVerifier
  split
  · exact ⟨co.intermediateCerts, rfl⟩
  · split
    · exact ⟨co.intermediateCerts, rfl⟩
    · exact ⟨co.intermediateCerts, rfl⟩
    · split
      · exact ⟨co.intermediateCerts, rfl⟩
      · rename_i chain _
        exact ⟨intermediatesOf chain, rfl⟩

/-- `entryVerifier` does not read the intermediate certificates it is given. -/
theorem entryVerifier_withPool :
    (entryVerifier p noun sig (withPool co pool)).2 = (entryVerifier p noun sig co).2 := by
  unfold entryVerifier
  simp only [withPool]
  cases co.sigVerifier with
  | some key => rfl
  | none =>
    cases sig.cert with
    | error err => rfl
    | ok found =>
      cases found with
      | none => rfl
      | some cert => cases sig.chain <;> rfl

/-- The outcome of the check of one entry. -/
def entryVerdict (p : Platform) (noun : String)
    (verify : Verifier → Signature → Option GoError) (sig : Signature) (h : Hash)
    (co : CheckOpts) : Call (Bool × Option GoError) :=
  match (entryVerifier p noun sig co).2 with
  | .error err => .ok (false, some err)
  | .ok verifier =>
    match verify verifier sig with
    | some err => .ok (false, some err)
    | none =>
      match checkClaims sig h co with
      | some err => .ok (false, some err)
      | none => imageSignatureEvidence p sig co

/-- The check is its outcome beside the options that `entryVerifier` leaves. -/
theorem entryCheck_eq :
    entryCheck p noun verify sig h co =
      (entryVerdict p noun verify sig h co).map fun outcome =>
        ((entryVerifier p noun sig co).1, outcome) := by
  obtain ⟨pool, written⟩ := entryVerifier_opts p noun sig co
  unfold entryCheck entryVerdict
  generalize entryVerifier p noun sig co = outcome at written ⊢
  obtain ⟨after, verifier⟩ := outcome
  subst written
  cases verifier with
  | error err => rfl
  | ok verifier =>
    cases signed : verify verifier sig with
    | some err => simp [signed, Except.map]
    | none =>
      have claims : checkClaims sig h (withPool co pool) = checkClaims sig h co := rfl
      have evidence : imageSignatureEvidence p sig (withPool co pool) =
          imageSignatureEvidence p sig co := rfl
      simp only [signed, claims, evidence]
      cases checkClaims sig h co with
      | some err => rfl
      | none => cases imageSignatureEvidence p sig co <;> rfl

/-- The outcome does not depend on the intermediate certificates in the options. -/
theorem entryVerdict_withPool :
    entryVerdict p noun verify sig h (withPool co pool) =
      entryVerdict p noun verify sig h co := by
  unfold entryVerdict
  rw [entryVerifier_withPool]
  rfl

/-- What an entry that passes has as log evidence, by whether its bundle was verified. -/
inductive Evidenced (p : Platform) (sig : Signature) (co : CheckOpts) : Bool → Prop
  /-- Its bundle was verified. -/
  | bundle : verifyBundle p sig = .ok (true, none) → Evidenced p sig co true
  /-- The log was searched. -/
  | log {client : RekorClient} {err : Option GoError} : co.rekorClient = some client →
      verifyBundle p sig = .ok (false, err) → tlogValidate p co client sig = .ok none →
      Evidenced p sig co false
  /-- Nothing: there is no log to search, and `VerifyBundle` reported no error. -/
  | nothing : co.rekorClient = none → verifyBundle p sig = .ok (false, none) →
      Evidenced p sig co false

/-- The evidence part passes exactly on evidence of these three kinds. -/
theorem imageSignatureEvidence_eq_ok :
    imageSignatureEvidence p sig co = .ok (flag, none) ↔ Evidenced p sig co flag := by
  constructor
  · intro passed
    obtain ⟨⟨verified, err⟩, outcome, passed⟩ := bind_eq_ok.mp passed
    dsimp only at passed
    split at passed
    · rename_i failed
      simp only [Except.ok.injEq, Prod.mk.injEq, wrap_eq_none] at passed
      simp [passed.2] at failed
    · rename_i tolerated
      split at passed
      · rename_i client configured
        obtain ⟨found, searched, passed⟩ := bind_eq_ok.mp passed
        cases passed
        exact .log configured outcome searched
      · rename_i settled
        cases passed
        cases flag with
        | true =>
          obtain ⟨rfl, -⟩ := verifyBundle_accepts.mp outcome
          exact .bundle outcome
        | false =>
          cases configured : co.rekorClient with
          | some client => exact (settled client rfl configured).elim
          | none =>
            cases err with
            | some err => simp [configured] at tolerated
            | none => exact .nothing configured outcome
  · rintro (outcome | ⟨configured, outcome, searched⟩ | ⟨configured, outcome⟩)
    · simp [imageSignatureEvidence, outcome, bind, Except.bind]
    · simp [imageSignatureEvidence, outcome, configured, searched, bind, Except.bind]
    · simp [imageSignatureEvidence, outcome, configured, bind, Except.bind]

/-- The check passes exactly when the entry has a verifier, its signature and its claims verify
and it has log evidence. -/
theorem entryVerdict_accepts :
    entryVerdict p noun verify sig h co = .ok (flag, none) ↔
      ∃ verifier, VerifiesWith p sig co verifier ∧ verify verifier sig = none ∧
        checkClaims sig h co = none ∧ Evidenced p sig co flag := by
  have found : ∀ verifier, VerifiesWith p sig co verifier ↔
      (entryVerifier p noun sig co).2 = .ok verifier := fun _ => entryVerifier_eq_ok.symm
  simp only [entryVerdict, found]
  cases (entryVerifier p noun sig co).2 with
  | error err => simp
  | ok verifier =>
    simp only [Except.ok.injEq, exists_eq_left', ← imageSignatureEvidence_eq_ok]
    cases verify verifier sig with
    | some err => simp
    | none => cases checkClaims sig h co <;> simp

/-- The check returns exactly when the evidence part does, if it comes to it. -/
theorem returns_entryVerdict :
    Returns (entryVerdict p noun verify sig h co) ↔
      ∀ verifier, VerifiesWith p sig co verifier → verify verifier sig = none →
        checkClaims sig h co = none → Returns (imageSignatureEvidence p sig co) := by
  have found : ∀ verifier, VerifiesWith p sig co verifier ↔
      (entryVerifier p noun sig co).2 = .ok verifier := fun _ => entryVerifier_eq_ok.symm
  simp only [entryVerdict, found]
  cases (entryVerifier p noun sig co).2 with
  | error err => simp
  | ok verifier =>
    simp only [Except.ok.injEq, forall_eq']
    cases verify verifier sig with
    | some err => simp
    | none => cases checkClaims sig h co <;> simp

/-- The check of one entry accepts it. -/
def Accepts (check : Call (CheckOpts × Bool × Option GoError)) : Prop :=
  ∃ after flag, check = .ok (after, flag, none)

/-- Whether an entry is accepted can be evaluated. -/
instance (check : Call (CheckOpts × Bool × Option GoError)) : Decidable (Accepts check) :=
  match check with
  | .ok (after, flag, none) => .isTrue ⟨after, flag, rfl⟩
  | .ok (_, _, some _) => .isFalse (by simp [Accepts])
  | .error _ => .isFalse (by simp [Accepts])

theorem accepts_iff_verdict {noun : String} {verify : Verifier → Signature → Option GoError} :
    Accepts (entryCheck p noun verify sig h co) ↔
      ∃ flag, entryVerdict p noun verify sig h co = .ok (flag, none) := by
  rw [entryCheck_eq]
  unfold Accepts
  cases entryVerdict p noun verify sig h co with
  | error panic => simp [Except.map]
  | ok outcome => simp [Except.map, Prod.ext_iff]

/-- An entry that is accepted has passed every part of the check. -/
theorem accepts_entryCheck {noun : String} {verify : Verifier → Signature → Option GoError} :
    Accepts (entryCheck p noun verify sig h co) ↔
      ∃ verifier flag, VerifiesWith p sig co verifier ∧ verify verifier sig = none ∧
        checkClaims sig h co = none ∧ Evidenced p sig co flag := by
  rw [accepts_iff_verdict, exists_comm]
  simp only [entryVerdict_accepts]

theorem accepts_verifyAttestation {flag : Bool} :
    Accepts (verifyAttestation p sig h co flag) ↔
      Accepts (entryCheck p "attestation" (verifyOCIAttestation p) sig h co) := by
  rw [verifyAttestation_eq]
  unfold Accepts
  cases entryCheck p "attestation" (verifyOCIAttestation p) sig h co with
  | error panic => simp [Except.map]
  | ok outcome =>
    obtain ⟨after, verified, err⟩ := outcome
    simp [Except.map]

end Cosign.Verif
