import Cosign.Go.Loop
import Cosign.Verif.EntryCheck
import Cosign.Verif.Sample

/-!
# Isolation of the entries of an image

The loops over signatures and attestations share one `CheckOpts`. The field that is written is
overwritten before it is read, so both loops are filters: an entry passes in the loop exactly when
it passes alone (`verifySignatures_isolates`).
-/
namespace Cosign.Verif

open Cosign.Go Cosign.Encoding Cosign.Oci Cosign.Verify

variable {p : Platform} {h : Hash} {co : CheckOpts} {sig : Signature} {sl : List Signature}

/-- Whether the check of one entry passed. -/
def verdictOf (check : Call (CheckOpts × Bool × Option GoError)) : Call Bool :=
  check.map fun outcome => outcome.2.2.isNone

/-- The options of the loop are the initial ones but for the intermediate certificates. -/
def SharesOpts (co : CheckOpts) (state : LoopState) : Prop :=
  ∃ pool, state.co = withPool co pool

theorem verdictOf_entryCheck {noun : String} {verify : Verifier → Signature → Option GoError} :
    verdictOf (entryCheck p noun verify sig h co) =
      (entryVerdict p noun verify sig h co).map fun outcome => outcome.2.isNone := by
  rw [entryCheck_eq]
  cases entryVerdict p noun verify sig h co <;> rfl

/-- From options that share the initial ones, the check of an entry has the initial outcome and
leaves such options. -/
theorem entryCheck_shares (p : Platform) (noun : String)
    (verify : Verifier → Signature → Option GoError) (sig : Signature) (h : Hash)
    {state : LoopState} (shares : SharesOpts co state) :
    ∃ pool, entryCheck p noun verify sig h state.co =
      (entryVerdict p noun verify sig h co).map fun outcome => (withPool co pool, outcome) := by
  obtain ⟨pool, shared⟩ := shares
  obtain ⟨written, opts⟩ := entryVerifier_opts p noun sig state.co
  refine ⟨written, ?_⟩
  rw [entryCheck_eq, opts, shared, entryVerdict_withPool]
  rfl

/-- The state after the check of an entry with an outcome. -/
def nextState (state : LoopState) (sig : Signature)
    (outcome : CheckOpts × Bool × Option GoError) : LoopState :=
  let state := { state with
    co := outcome.1
    bundleVerified := state.bundleVerified || outcome.2.1 }
  match outcome.2.2 with
  | some err => { state with validationErrs := state.validationErrs ++ [err.message] }
  | none => { state with checked := state.checked ++ [sig] }

@[simp] theorem nextState_co (state : LoopState)
    (outcome : CheckOpts × Bool × Option GoError) :
    (nextState state sig outcome).co = outcome.1 := by
  unfold nextState
  cases outcome.2.2 <;> rfl

@[simp] theorem nextState_checked (state : LoopState)
    (outcome : CheckOpts × Bool × Option GoError) :
    (nextState state sig outcome).checked =
      state.checked ++ if outcome.2.2.isNone then [sig] else [] := by
  unfold nextState
  cases outcome.2.2 <;> simp

@[simp] theorem nextState_bundleVerified (state : LoopState)
    (outcome : CheckOpts × Bool × Option GoError) :
    (nextState state sig outcome).bundleVerified =
      (state.bundleVerified || outcome.2.1) := by
  unfold nextState
  cases outcome.2.2 <;> rfl

/-- One iteration of either loop. -/
def entryStep (p : Platform) (noun : String) (verify : Verifier → Signature → Option GoError)
    (h : Hash) (state : LoopState) (sig : Signature) : Call LoopState :=
  (entryCheck p noun verify sig h state.co).map (nextState state sig)

theorem entryStep_filters (p : Platform) (noun : String)
    (verify : Verifier → Signature → Option GoError) (h : Hash) (co : CheckOpts) :
    Filters (SharesOpts co) LoopState.checked
      (fun sig => verdictOf (entryCheck p noun verify sig h co)) (entryStep p noun verify h) where
  panics state sig panic shares said := by
    obtain ⟨pool, checked⟩ := entryCheck_shares p noun verify sig h shares
    rw [verdictOf_entryCheck] at said
    rw [entryStep, checked]
    cases outcome : entryVerdict p noun verify sig h co with
    | error panic' =>
      rw [outcome] at said
      cases said
      rfl
    | ok outcome' => simp [outcome, Except.map] at said
  keeps state sig passed shares said := by
    obtain ⟨pool, checked⟩ := entryCheck_shares p noun verify sig h shares
    rw [verdictOf_entryCheck] at said
    cases outcome : entryVerdict p noun verify sig h co with
    | error panic => simp [outcome, Except.map] at said
    | ok outcome' =>
      rw [outcome] at said
      cases said
      refine ⟨nextState state sig (withPool co pool, outcome'), ?_, ⟨pool, nextState_co _ _⟩,
        nextState_checked _ _⟩
      rw [entryStep, checked, outcome]
      rfl

/-- Either loop on what `Get` returned. -/
def verifyEntries (p : Platform) (noun nouns : String)
    (verify : Verifier → Signature → Option GoError) (sigs : Except GoError (List Signature))
    (h : Hash) (co : CheckOpts) : Call (CheckOpts × List Signature × Bool × Option GoError) :=
  match sigs with
  | .error err => .ok (co, [], false, some err)
  | .ok sl => do
    let state ← sl.foldlM (entryStep p noun verify h) ⟨co, [], false, []⟩
    .ok (state.result nouns)

/-- `verifySignatures` is the loop with the signature over the payload. -/
theorem verifySignatures_eq (sigs : Except GoError (List Signature)) :
    verifySignatures p sigs h co =
      verifyEntries p "signature" "signatures" verifyOCISignature sigs h co := by
  have step : verifySignaturesStep p h = entryStep p "signature" verifyOCISignature h := by
    funext state sig
    unfold verifySignaturesStep entryStep
    rw [verifyImageSignature_eq]
    cases entryCheck p "signature" verifyOCISignature sig h state.co with
    | error panic => rfl
    | ok outcome =>
      obtain ⟨after, verified, err⟩ := outcome
      cases err <;> rfl
  cases sigs with
  | error err => rfl
  | ok sl =>
    exact congrArg (fun step => sl.foldlM step ⟨co, [], false, []⟩ >>= fun state =>
      .ok (state.result "signatures")) step

/-- `verifyImageAttestations` is the loop with the signature over the envelope. -/
theorem verifyImageAttestations_eq (atts : Except GoError (List Signature)) :
    verifyImageAttestations p atts h co =
      verifyEntries p "attestation" "attestations" (verifyOCIAttestation p) atts h co := by
  have step : verifyAttestationsStep p h =
      entryStep p "attestation" (verifyOCIAttestation p) h := by
    funext state sig
    unfold verifyAttestationsStep entryStep
    rw [verifyAttestation_eq]
    cases entryCheck p "attestation" (verifyOCIAttestation p) sig h state.co with
    | error panic => rfl
    | ok outcome =>
      obtain ⟨after, verified, err⟩ := outcome
      cases err <;> rfl
  cases atts with
  | error err => rfl
  | ok sl =>
    exact congrArg (fun step => sl.foldlM step ⟨co, [], false, []⟩ >>= fun state =>
      .ok (state.result "attestations")) step

section

variable {noun nouns : String} {verify : Verifier → Signature → Option GoError}

/-- An entry passes alone from the initial options. -/
def passesAlone (p : Platform) (noun : String) (verify : Verifier → Signature → Option GoError)
    (h : Hash) (co : CheckOpts) (sig : Signature) : Bool :=
  decide (Accepts (entryCheck p noun verify sig h co))

theorem passes_verdictOf (check : Call (CheckOpts × Bool × Option GoError)) :
    passes (verdictOf check) = decide (Accepts check) := by
  match check with
  | .error panic => rfl
  | .ok (after, flag, none) => rfl
  | .ok (after, flag, some err) => rfl

theorem returns_verifyEntries :
    Returns (verifyEntries p noun nouns verify (.ok sl) h co) ↔
      ∀ sig ∈ sl, Returns (entryVerdict p noun verify sig h co) := by
  have verdict : ∀ sig, Returns (verdictOf (entryCheck p noun verify sig h co)) ↔
      Returns (entryVerdict p noun verify sig h co) := by
    intro sig
    rw [verdictOf_entryCheck]
    cases entryVerdict p noun verify sig h co <;> simp [Except.map]
  simp only [verifyEntries, returns_bind, returns_ok, and_true]
  refine Iff.trans ((entryStep_filters p noun verify h co).returns_foldlM
    ⟨co.intermediateCerts, rfl⟩ sl) ?_
  simp only [verdict]

/-- A loop that returns has kept the entries that pass alone, and fails if there are none. -/
theorem verifyEntries_eq_ok {after : CheckOpts} {list : List Signature} {flag : Bool}
    {err : Option GoError}
    (run : verifyEntries p noun nouns verify (.ok sl) h co = .ok (after, list, flag, err)) :
    list = sl.filter (passesAlone p noun verify h co) ∧ (err = none ↔ list ≠ []) := by
  obtain ⟨state, loop, result⟩ := bind_eq_ok.mp run
  obtain ⟨-, kept⟩ := (entryStep_filters p noun verify h co).foldlM_kept
    ⟨co.intermediateCerts, rfl⟩ loop
  simp only [List.nil_append, passes_verdictOf] at kept
  unfold LoopState.result at result
  split at result
  · rename_i empty
    cases result
    have nothing : state.checked = [] := List.length_eq_zero_iff.mp empty
    refine ⟨?_, by simp⟩
    rw [← nothing, kept]
    rfl
  · rename_i nonempty
    cases result
    refine ⟨kept, ?_⟩
    simp only [ne_eq, true_iff]
    exact fun nothing => nonempty (by rw [nothing]; rfl)

/-- A loop over entries that all pass alone returns all of them. -/
theorem verifyEntries_all (nonempty : sl ≠ [])
    (pass : ∀ sig ∈ sl, passesAlone p noun verify h co sig = true) :
    ∃ after flag, verifyEntries p noun nouns verify (.ok sl) h co =
      .ok (after, sl, flag, none) := by
  have returns : Returns (verifyEntries p noun nouns verify (.ok sl) h co) := by
    rw [returns_verifyEntries]
    intro sig member
    obtain ⟨flag, passed⟩ := accepts_iff_verdict.mp (of_decide_eq_true (pass sig member))
    exact ⟨_, passed⟩
  obtain ⟨⟨after, list, flag, err⟩, run⟩ := returns
  obtain ⟨kept, found⟩ := verifyEntries_eq_ok run
  obtain rfl : list = sl := kept.trans (List.filter_eq_self.mpr pass)
  obtain rfl : err = none := found.mpr nonempty
  exact ⟨after, flag, run⟩

/-- Passing alone does not depend on the intermediate certificates in the options. -/
theorem passesAlone_withPool {pool : Option CertPool} :
    passesAlone p noun verify h (withPool co pool) = passesAlone p noun verify h co := by
  funext sig
  unfold passesAlone
  rw [← passes_verdictOf, ← passes_verdictOf, verdictOf_entryCheck, verdictOf_entryCheck,
    entryVerdict_withPool]

/-- A loop that succeeds from options with other intermediate certificates succeeds with the
same entries from the options themselves, and leaves such options. -/
theorem verifyEntries_withPool {sigs : Except GoError (List Signature)}
    {pool : Option CertPool} {after : CheckOpts} {list : List Signature} {flag : Bool}
    (run : verifyEntries p noun nouns verify sigs h (withPool co pool) =
      .ok (after, list, flag, none)) :
    (∃ pool, after = withPool co pool) ∧
      ∃ after' flag', verifyEntries p noun nouns verify sigs h co =
        .ok (after', list, flag', none) := by
  cases sigs with
  | error failure => cases run
  | ok sl =>
    have returns : Returns (verifyEntries p noun nouns verify (.ok sl) h co) := by
      have shifted : Returns (verifyEntries p noun nouns verify (.ok sl) h (withPool co pool)) :=
        ⟨_, run⟩
      simpa only [returns_verifyEntries, entryVerdict_withPool] using shifted
    obtain ⟨⟨after', list', flag', err'⟩, run'⟩ := returns
    obtain ⟨kept, found⟩ := verifyEntries_eq_ok run
    obtain ⟨kept', found'⟩ := verifyEntries_eq_ok run'
    rw [passesAlone_withPool, ← kept'] at kept
    subst kept
    obtain rfl : err' = none := found'.mpr (found.mp rfl)
    refine ⟨?_, after', flag', run'⟩
    obtain ⟨state, loop, result⟩ := bind_eq_ok.mp run
    obtain ⟨⟨pool', shared⟩, -⟩ := (entryStep_filters p noun verify h co).foldlM_kept
      ⟨pool, rfl⟩ loop
    unfold LoopState.result at result
    split at result
    · cases result
    · cases result
      exact ⟨pool', shared⟩

end

/-- `VerifyImageSignature` accepts a signature when run alone from the initial options. -/
def acceptedAlone (p : Platform) (h : Hash) (co : CheckOpts) (sig : Signature) : Bool :=
  decide (Accepts (verifyImageSignature p sig h co))

/-- What a signature that is returned has passed. -/
structure SignatureVerified (p : Platform) (h : Hash) (co : CheckOpts) (sig : Signature) :
    Prop where
  /-- The signature verifies over its own payload, with the caller's key or with its own
  certificate, which was validated with the intermediate certificates of its own chain. -/
  signed : ∃ verifier b64sig signature payload, VerifiesWith p sig co verifier ∧
    sig.base64Signature = .ok b64sig ∧ Base64.stdDecode b64sig = some signature ∧
    sig.payload = .ok payload ∧ verifier.verifySignature signature payload = none
  /-- The claim verifier, if any, passes for the digest. -/
  claims : ∀ claimVerifier, co.claimVerifier = some claimVerifier →
    claimVerifier sig h co.annotations = none

/-- `verifyOCISignature` passes exactly when the signature verifies over the payload. -/
theorem verifyOCISignature_eq_none {verifier : Verifier} :
    verifyOCISignature verifier sig = none ↔
      ∃ b64sig signature payload, sig.base64Signature = .ok b64sig ∧
        Base64.stdDecode b64sig = some signature ∧ sig.payload = .ok payload ∧
        verifier.verifySignature signature payload = none := by
  unfold verifyOCISignature
  cases sig.base64Signature with
  | error err => simp
  | ok b64sig =>
    cases decoded : Base64.stdDecode b64sig with
    | none => simp [decoded]
    | some signature => cases sig.payload <;> simp [decoded]

/-- A signature is accepted alone exactly when it passes every part of the check. -/
theorem acceptedAlone_iff :
    acceptedAlone p h co sig = true ↔
      ∃ verifier flag, VerifiesWith p sig co verifier ∧ verifyOCISignature verifier sig = none ∧
        checkClaims sig h co = none ∧ Evidenced p sig co flag := by
  unfold acceptedAlone
  rw [decide_eq_true_iff]
  exact accepts_entryCheck

theorem acceptedAlone_verified (accepted : acceptedAlone p h co sig = true) :
    SignatureVerified p h co sig := by
  obtain ⟨verifier, flag, verifies, signed, claims, -⟩ := acceptedAlone_iff.mp accepted
  obtain ⟨b64sig, signature, payload, base64, decoded, read, valid⟩ :=
    verifyOCISignature_eq_none.mp signed
  refine ⟨⟨verifier, b64sig, signature, payload, verifies, base64, decoded, read, valid⟩, ?_⟩
  intro claimVerifier given
  simpa only [checkClaims, given] using claims

theorem verifySignatures_list {after : CheckOpts} {list : List Signature} {flag : Bool}
    {err : Option GoError}
    (run : verifySignatures p (.ok sl) h co = .ok (after, list, flag, err)) :
    list = sl.filter (acceptedAlone p h co) ∧ (err = none ↔ list ≠ []) := by
  rw [verifySignatures_eq] at run
  exact verifyEntries_eq_ok run

/-- **The signatures returned are those accepted alone, in order.** A run fails exactly when
there are none or the list cannot be read; permuting the list permutes the result; and the
verdict on an entry is the same in every list. -/
theorem verifySignatures_isolates (sigs : Except GoError (List Signature))
    (returns : Returns (verifySignatures p sigs h co)) :
    ∃ after list flag err, verifySignatures p sigs h co = .ok (after, list, flag, err) ∧
      match sigs with
      | .error failure => list = [] ∧ err = some failure
      | .ok sl =>
        list = sl.filter (acceptedAlone p h co) ∧
        (err ≠ none ↔ sl.filter (acceptedAlone p h co) = []) ∧
        (∀ sig ∈ list, SignatureVerified p h co sig) ∧
        (∀ sl', sl.Perm sl' → ∃ after' list' flag' err',
          verifySignatures p (.ok sl') h co = .ok (after', list', flag', err') ∧
          list.Perm list') ∧
        ∀ sl' after' list' flag' err',
          verifySignatures p (.ok sl') h co = .ok (after', list', flag', err') →
          ∀ sig ∈ sl, sig ∈ sl' → (sig ∈ list ↔ sig ∈ list') := by
  obtain ⟨⟨after, list, flag, err⟩, run⟩ := returns
  refine ⟨after, list, flag, err, run, ?_⟩
  cases sigs with
  | error failure =>
    cases run
    exact ⟨rfl, rfl⟩
  | ok sl =>
    obtain ⟨kept, failed⟩ := verifySignatures_list run
    refine ⟨kept, ?_, ?_, ?_, ?_⟩
    · rw [← kept, ne_eq, failed, not_not]
    · intro sig member
      rw [kept, List.mem_filter] at member
      exact acceptedAlone_verified member.2
    · intro sl' permuted
      have returns' : Returns (verifySignatures p (.ok sl') h co) := by
        have returns : Returns (verifySignatures p (.ok sl) h co) := ⟨_, run⟩
        rw [verifySignatures_eq, returns_verifyEntries] at returns ⊢
        exact fun sig member => returns sig (permuted.mem_iff.mpr member)
      obtain ⟨⟨after', list', flag', err'⟩, run'⟩ := returns'
      refine ⟨after', list', flag', err', run', ?_⟩
      rw [kept, (verifySignatures_list run').1]
      exact permuted.filter _
    · intro sl' after' list' flag' err' run' sig member member'
      rw [kept, (verifySignatures_list run').1, List.mem_filter, List.mem_filter]
      simp only [member, member', true_and]

/-- A list with one good and one bad signature. -/
def samplePair : List Signature := [sampleLayer "Ag==" none none, sampleLayer "AQ==" none none]

/-- Isolation on that list. -/
theorem verifySignatures_isolates_pair :
    Returns (verifySignatures samplePlatform (.ok samplePair) sampleImage sampleKeyOpts) ∧
      ∃ after list flag err,
        verifySignatures samplePlatform (.ok samplePair) sampleImage sampleKeyOpts =
          .ok (after, list, flag, err) ∧
        list = samplePair.filter (acceptedAlone samplePlatform sampleImage sampleKeyOpts) := by
  have returns : Returns (verifySignatures samplePlatform (.ok samplePair) sampleImage
      sampleKeyOpts) := by
    decide +kernel
  obtain ⟨after, list, flag, err, run, kept, -⟩ :=
    verifySignatures_isolates (.ok samplePair) returns
  exact ⟨returns, after, list, flag, err, run, kept⟩

end Cosign.Verif
