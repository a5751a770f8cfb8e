import Cosign.Verif.Isolation

/-!
# The two loops apply one policy

`verifySignatures` and `verifyImageAttestations` are written out separately. They differ in how the
signature of an entry is verified, in the texts of some errors, and in how a verified bundle is
reported. Where the signature checks give the same answer, nothing else differs: the options
afterwards, the bundle flag and the entries that are returned are the same
(`loops_apply_same_policy`).
-/
namespace Cosign.Verif

open Cosign.Go Cosign.Encoding Cosign.Oci Cosign.Verify

variable {p : Platform} {noun other nouns others : String} {h : Hash} {co : CheckOpts}
  {sig : Signature} {pool : Option CertPool}
  {verify verify' : Verifier → Signature → Option GoError}

/-- Two checks of a signature give the same answer on an entry, for the verifier that the entry has
under the options. -/
def AnswersAlike (p : Platform) (verify verify' : Verifier → Signature → Option GoError)
    (co : CheckOpts) (sig : Signature) : Prop :=
  ∀ verifier, VerifiesWith p sig co verifier →
    (verify verifier sig = none ↔ verify' verifier sig = none)

/-- The verifier of an entry does not depend on the intermediate certificates in the options. -/
theorem verifiesWith_withPool {verifier : Verifier} :
    VerifiesWith p sig (withPool co pool) verifier ↔ VerifiesWith p sig co verifier := by
  have found : ∀ opts, VerifiesWith p sig opts verifier ↔
      (entryVerifier p "signature" sig opts).2 = .ok verifier := fun _ => entryVerifier_eq_ok.symm
  rw [found, found, entryVerifier_withPool]

theorem AnswersAlike.withPool (alike : AnswersAlike p verify verify' co sig) :
    AnswersAlike p verify verify' (withPool co pool) sig :=
  fun verifier verifies => alike verifier (verifiesWith_withPool.mp verifies)

/-- Two outcomes of the check of an entry: the same options and bundle flag, and both or neither
with an error. -/
structure SameEntry (left right : CheckOpts × Bool × Option GoError) : Prop where
  /-- The options afterwards. -/
  opts : left.1 = right.1
  /-- Whether the bundle was verified. -/
  bundle : left.2.1 = right.2.1
  verdict : left.2.2 = none ↔ right.2.2 = none

/-- `entryVerifier` leaves the same options whatever the noun of its errors is. -/
theorem entryVerifier_opts_noun (p : Platform) (noun other : String) (sig : Signature)
    (co : CheckOpts) :
    (entryVerifier p noun sig co).1 = (entryVerifier p other sig co).1 := by
  unfold entryVerifier
  cases co.sigVerifier with
  | some key => rfl
  | none =>
    cases sig.cert with
    | error err => rfl
    | ok found =>
      cases found with
      | none => rfl
      | some cert => cases sig.chain <;> rfl

/-- The outcomes of two checks whose signature checks give the same answer. -/
theorem entryVerdict_agrees (noun other : String)
    (alike : AnswersAlike p verify verify' co sig) :
    RunsAlike (fun left right => left.1 = right.1 ∧ (left.2 = none ↔ right.2 = none))
      (entryVerdict p noun verify sig h co) (entryVerdict p other verify' sig h co) := by
  unfold entryVerdict
  cases found : (entryVerifier p noun sig co).2 with
  | error err =>
    cases found' : (entryVerifier p other sig co).2 with
    | error err' => exact .returns ⟨rfl, by simp⟩
    | ok verifier =>
      have verifies : VerifiesWith p sig co verifier := entryVerifier_eq_ok.mp found'
      rw [entryVerifier_eq_ok.mpr verifies] at found
      cases found
  | ok verifier =>
    have verifies : VerifiesWith p sig co verifier := entryVerifier_eq_ok.mp found
    have answers := alike verifier verifies
    rw [entryVerifier_eq_ok.mpr verifies]
    dsimp only
    cases signed : verify verifier sig with
    | some err =>
      cases signed' : verify' verifier sig with
      | some err' => exact .returns ⟨rfl, by simp⟩
      | none =>
        rw [signed, signed'] at answers
        simp at answers
    | none =>
      rw [answers.mp signed]
      dsimp only
      cases checkClaims sig h co with
      | some err => exact .returns ⟨rfl, Iff.rfl⟩
      | none =>
        dsimp only
        cases imageSignatureEvidence p sig co with
        | error panic => exact .panics panic
        | ok outcome => exact .returns ⟨rfl, Iff.rfl⟩

/-- Two checks of an entry agree if their signature checks do, and they write the intermediate
certificates of the options at most. -/
theorem entryCheck_agrees (noun other : String) (alike : AnswersAlike p verify verify' co sig) :
    RunsAlike (fun left right => SameEntry left right ∧ ∃ pool, left.1 = withPool co pool)
      (entryCheck p noun verify sig h co) (entryCheck p other verify' sig h co) := by
  have written := entryVerifier_opts p noun sig co
  have outcomes := entryVerdict_agrees (h := h) noun other alike
  rw [entryCheck_eq, entryCheck_eq, ← entryVerifier_opts_noun p noun other sig co]
  generalize entryVerdict p noun verify sig h co = left at outcomes
  generalize entryVerdict p other verify' sig h co = right at outcomes
  cases outcomes with
  | panics panic => exact .panics panic
  | returns same => exact .returns ⟨⟨rfl, same.1, same.2⟩, written⟩

/-- Two states of the loops: everything but the texts of the errors is the same, and the options
are the initial ones but for the intermediate certificates. -/
structure SameState (co : CheckOpts) (left right : LoopState) : Prop where
  /-- The options. -/
  opts : left.co = right.co
  /-- They share the initial options. -/
  shares : SharesOpts co left
  /-- The entries that passed. -/
  checked : left.checked = right.checked
  /-- Whether some bundle was verified. -/
  bundle : left.bundleVerified = right.bundleVerified

/-- Outcomes that are the same lead to states that are the same. -/
theorem SameState.next {left right : LoopState}
    {outcome outcome' : CheckOpts × Bool × Option GoError} (states : SameState co left right)
    (outcomes : SameEntry outcome outcome') (written : ∃ pool, outcome.1 = withPool co pool) :
    SameState co (nextState left sig outcome) (nextState right sig outcome') := by
  have verdict : outcome.2.2.isNone = outcome'.2.2.isNone := by
    rw [Bool.eq_iff_iff, Option.isNone_iff_eq_none, Option.isNone_iff_eq_none]
    exact outcomes.verdict
  constructor
  · rw [nextState_co, nextState_co, outcomes.opts]
  · unfold SharesOpts
    rw [nextState_co]
    exact written
  · rw [nextState_checked, nextState_checked, states.checked, verdict]
  · rw [nextState_bundleVerified, nextState_bundleVerified, states.bundle, outcomes.bundle]

/-- One iteration of the loops on an entry on which the signature checks give the same answer. -/
theorem entryStep_agrees (noun other : String) {left right : LoopState}
    (alike : AnswersAlike p verify verify' co sig) (states : SameState co left right) :
    RunsAlike (SameState co) (entryStep p noun verify h left sig)
      (entryStep p other verify' h right sig) := by
  obtain ⟨pool, shared⟩ := states.shares
  have alikeHere : AnswersAlike p verify verify' left.co sig := by
    rw [shared]
    exact alike.withPool
  have outcomes := entryCheck_agrees (h := h) noun other alikeHere
  unfold entryStep
  rw [← states.opts]
  generalize entryCheck p noun verify sig h left.co = check at outcomes
  generalize entryCheck p other verify' sig h left.co = check' at outcomes
  cases outcomes with
  | panics panic => exact .panics panic
  | returns same =>
    obtain ⟨outcomes, written, opts⟩ := same
    refine .returns (states.next outcomes ⟨written, ?_⟩)
    rw [opts, shared]
    rfl

/-- Two results of the loops: the same options, entries and bundle flag, and both or neither with
an error. -/
structure SameResult (left right : CheckOpts × List Signature × Bool × Option GoError) :
    Prop where
  /-- The options afterwards. -/
  opts : left.1 = right.1
  /-- The entries that are returned. -/
  entries : left.2.1 = right.2.1
  /-- Whether some bundle was verified. -/
  bundle : left.2.2.1 = right.2.2.1
  /-- Whether there is an error. -/
  verdict : left.2.2.2 = none ↔ right.2.2.2 = none

theorem SameState.result {left right : LoopState} (states : SameState co left right)
    (nouns others : String) : SameResult (left.result nouns) (right.result others) := by
  unfold LoopState.result
  rw [← states.checked]
  by_cases empty : left.checked.length = 0
  · rw [if_pos empty, if_pos empty]
    exact ⟨states.opts, rfl, rfl, by simp⟩
  · rw [if_neg empty, if_neg empty]
    exact ⟨states.opts, rfl, states.bundle, Iff.rfl⟩

/-- Two loops agree on a list if the signature checks give the same answer on every entry. -/
theorem verifyEntries_agrees (noun other nouns others : String)
    {entries : Except GoError (List Signature)}
    (alike : ∀ sl, entries = .ok sl → ∀ sig ∈ sl, AnswersAlike p verify verify' co sig) :
    RunsAlike SameResult (verifyEntries p noun nouns verify entries h co)
      (verifyEntries p other others verify' entries h co) := by
  cases entries with
  | error err => exact .returns ⟨rfl, rfl, rfl, by simp⟩
  | ok sl =>
    have start : SameState co ⟨co, [], false, []⟩ ⟨co, [], false, []⟩ :=
      ⟨rfl, ⟨co.intermediateCerts, rfl⟩, rfl, rfl⟩
    apply RunsAlike.andThen (RunsAlike.foldlM _ start)
    · intro state state' states
      exact .returns (states.result nouns others)
    · intro sig inside state state' states
      exact entryStep_agrees noun other (alike sl rfl sig inside) states

/-- **The attestation loop and the signature loop apply the same policy.** On an entry on which
`verifyOCISignature` and `verifyOCIAttestation` give the same answer, both checks panic or both
return: with the same options, contribution to the bundle flag and verdict. On a list of such
entries both functions leave the same options and return the same entries and bundle flag. -/
theorem loops_apply_same_policy (p : Platform) (h : Hash) (co : CheckOpts) :
    (∀ sig bundleVerified, AnswersAlike p (verifyOCIAttestation p) verifyOCISignature co sig →
      RunsAlike (fun closure outcome => SameEntry closure
          (outcome.1, bundleVerified || outcome.2.1, outcome.2.2))
        (verifyAttestation p sig h co bundleVerified) (verifyImageSignature p sig h co)) ∧
    ∀ entries : Except GoError (List Signature),
      (∀ sl, entries = .ok sl → ∀ sig ∈ sl,
        AnswersAlike p (verifyOCIAttestation p) verifyOCISignature co sig) →
      RunsAlike SameResult (verifyImageAttestations p entries h co)
        (verifySignatures p entries h co) := by
  constructor
  · intro sig bundleVerified alike
    have outcomes := entryCheck_agrees (h := h) "attestation" "signature" alike
    rw [verifyAttestation_eq, verifyImageSignature_eq]
    generalize entryCheck p "attestation" (verifyOCIAttestation p) sig h co = check at outcomes
    generalize entryCheck p "signature" verifyOCISignature sig h co = check' at outcomes
    cases outcomes with
    | panics panic => exact .panics panic
    | returns same =>
      have entry := same.1
      exact .returns ⟨entry.opts, congrArg (bundleVerified || ·) entry.bundle, entry.verdict⟩
  · intro entries alike
    rw [verifyImageAttestations_eq, verifySignatures_eq]
    exact verifyEntries_agrees "attestation" "signature" "attestations" "signatures" alike

/-- An entry whose payload is an envelope, signed inside the envelope and outside. -/
def doublySigned : Signature :=
  { sampleLayer "AQ==" none none with
    payload := .ok (utf8Bytes ("\x7b\"payloadType\":\"application/vnd.in-toto+json\"," ++
      "\"payload\":\"\",\"signatures\":[\x7b\"sig\":\"AQ==\"\x7d]\x7d")) }

theorem doublySigned_alike :
    AnswersAlike samplePlatform (verifyOCIAttestation samplePlatform) verifyOCISignature
      sampleKeyOpts doublySigned := by
  intro verifier verifies
  have given : verifier = sampleVerifier := by
    cases verifies with
    | inl key => exact (Option.some.inj key).symm
    | inr keyless => cases keyless.1
  rw [given]
  exact iff_of_true (by decide +kernel) (by decide +kernel)

/-- Both loops accept a list of it, and return it. -/
theorem loops_apply_same_policy_signed :
    RunsAlike SameResult
      (verifyImageAttestations samplePlatform (.ok [doublySigned]) sampleImage sampleKeyOpts)
      (verifySignatures samplePlatform (.ok [doublySigned]) sampleImage sampleKeyOpts) ∧
    Accepts (verifyImageSignature samplePlatform doublySigned sampleImage sampleKeyOpts) := by
  constructor
  · apply (loops_apply_same_policy samplePlatform sampleImage sampleKeyOpts).2
    intro sl given sig inside
    cases given
    rw [List.mem_singleton.mp inside]
    exact doublySigned_alike
  · decide +kernel

end Cosign.Verif
