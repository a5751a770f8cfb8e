import Cosign.Verif.Isolation

/-!
# The caller's options

A caller gives its options to the two loops by pointer. The check of an entry with a certificate
writes the intermediate certificates from the entry's own chain, also when there is none. What the
loops leave is the last chain they saw, and the caller's certificates are never used
(`caller_opts_kept_iff`).
-/
namespace Cosign.Verif

open Cosign.Go Cosign.Encoding Cosign.Oci Cosign.Verify

variable {p : Platform} {noun nouns : String} {verify : Verifier → Signature → Option GoError}
  {h : Hash} {co after : CheckOpts} {sig : Signature} {sl : List Signature}

/-- The options after the checks of a list of entries. -/
def reachedOpts (p : Platform) (noun : String) (co : CheckOpts) (sl : List Signature) :
    CheckOpts :=
  sl.foldl (fun co sig => (entryVerifier p noun sig co).1) co

/-- An iteration leaves the options that `entryVerifier` leaves. -/
theorem entryStep_opts {state next : LoopState}
    (stepped : entryStep p noun verify h state sig = .ok next) :
    next.co = (entryVerifier p noun sig state.co).1 := by
  rw [entryStep, entryCheck_eq] at stepped
  cases verdict : entryVerdict p noun verify sig h state.co with
  | error panic => simp [verdict, Except.map] at stepped
  | ok outcome =>
    simp only [verdict, Except.map, Except.ok.injEq] at stepped
    rw [← stepped, nextState_co]

/-- A loop over entries that returns leaves the options reached after all of them. -/
theorem foldlM_entryStep_opts {state final : LoopState}
    (run : sl.foldlM (entryStep p noun verify h) state = .ok final) :
    final.co = reachedOpts p noun state.co sl := by
  induction sl generalizing state with
  | nil =>
    cases run
    rfl
  | cons sig rest ih =>
    rw [List.foldlM_cons] at run
    obtain ⟨next, stepped, run⟩ := bind_eq_ok.mp run
    have reached : final.co = reachedOpts p noun next.co rest := ih run
    rw [reached, entryStep_opts stepped]
    rfl

/-- The loop of the source leaves the options reached after all entries, also when it fails. -/
theorem verifyEntries_opts {list : List Signature} {flag : Bool} {err : Option GoError}
    (run : verifyEntries p noun nouns verify (.ok sl) h co = .ok (after, list, flag, err)) :
    after = reachedOpts p noun co sl := by
  obtain ⟨state, loop, result⟩ := bind_eq_ok.mp run
  have reached : state.co = reachedOpts p noun co sl := foldlM_entryStep_opts loop
  have left : (state.result nouns).1 = state.co := by
    unfold LoopState.result
    split <;> rfl
  rw [← reached, ← left]
  exact congrArg Prod.fst (Except.ok.inj result).symm

/-- The intermediate certificates of the chain of an entry whose certificate and chain can be
read. -/
def chainPool (sig : Signature) : Option (Option CertPool) :=
  match sig.cert, sig.chain with
  | .ok (some _), .ok chain => some (intermediatesOf chain)
  | _, _ => none

theorem entryVerifier_opts_key {key : Verifier} (given : co.sigVerifier = some key) :
    (entryVerifier p noun sig co).1 = co := by
  simp only [entryVerifier, given]

/-- Without a key the intermediate certificates become those of the entry's chain. -/
theorem entryVerifier_opts_chain (keyless : co.sigVerifier = none) :
    (entryVerifier p noun sig co).1 =
      withPool co ((chainPool sig).getD co.intermediateCerts) := by
  unfold entryVerifier chainPool
  simp only [withPool, keyless]
  cases sig.cert with
  | error err => simp [← keyless]
  | ok found =>
    cases found with
    | none => simp [← keyless]
    | some cert => cases sig.chain <;> simp [← keyless]

theorem reachedOpts_key {key : Verifier} (given : co.sigVerifier = some key) :
    reachedOpts p noun co sl = co := by
  induction sl with
  | nil => rfl
  | cons sig rest ih =>
    show reachedOpts p noun (entryVerifier p noun sig co).1 rest = co
    rw [entryVerifier_opts_key given]
    exact ih

/-- Without a key the options reached hold the last chain that was read. -/
theorem reachedOpts_chain (keyless : co.sigVerifier = none) :
    reachedOpts p noun co sl =
      withPool co ((sl.filterMap chainPool).getLastD co.intermediateCerts) := by
  induction sl generalizing co with
  | nil => rfl
  | cons sig rest ih =>
    show reachedOpts p noun (entryVerifier p noun sig co).1 rest = _
    rw [entryVerifier_opts_chain keyless]
    have keyless' : (withPool co ((chainPool sig).getD co.intermediateCerts)).sigVerifier = none :=
      keyless
    rw [ih keyless']
    cases read : chainPool sig with
    | none =>
      rw [List.filterMap_cons_none read]
      rfl
    | some pool =>
      rw [List.filterMap_cons_some read, List.getLastD_cons]
      rfl

/-- What a caller may expect of its options: they are afterwards what they were before, and an
entry with a certificate and no chain is validated with the caller's intermediate
certificates. -/
structure CallerOptsKept (p : Platform) (noun : String) (co : CheckOpts) (sl : List Signature)
    (after : CheckOpts) : Prop where
  /-- The options are unchanged. -/
  frame : after = co
  /-- The certificate of an entry without a chain is validated under options that hold the
  caller's intermediate certificates, whatever entries come before it. -/
  supplied : ∀ before sig rest cert, sl = before ++ sig :: rest → co.sigVerifier = none →
    sig.cert = .ok (some cert) → sig.chain = .ok [] →
    ∃ used, entryVerifier p noun sig (reachedOpts p noun co before) =
        (used, validateAndUnpackCert p cert used) ∧
      used.intermediateCerts = co.intermediateCerts

/-- The caller gives a key; or the last chain that is read has the caller's intermediate
certificates and, where an entry has a certificate and no chain, the caller has none. -/
def KeepsPool (co : CheckOpts) (sl : List Signature) : Prop :=
  co.sigVerifier ≠ none ∨
    (sl.filterMap chainPool).getLastD co.intermediateCerts = co.intermediateCerts ∧
      ((∃ sig ∈ sl, (∃ cert, sig.cert = .ok (some cert)) ∧ sig.chain = .ok []) →
        co.intermediateCerts = none)

/-- An entry without a chain is validated without intermediate certificates. -/
theorem entryVerifier_chainless {cert : Certificate} (keyless : co.sigVerifier = none)
    (certified : sig.cert = .ok (some cert)) (chainless : sig.chain = .ok []) :
    entryVerifier p noun sig co =
      (withPool co none, validateAndUnpackCert p cert (withPool co none)) := by
  simp [entryVerifier, withPool, intermediatesOf, keyless, certified, chainless]

theorem reachedOpts_keyless (keyless : co.sigVerifier = none) :
    (reachedOpts p noun co sl).sigVerifier = none := by
  rw [reachedOpts_chain keyless]
  exact keyless

/-- The caller's options are kept exactly when the entries happen to write what was there. -/
theorem callerOptsKept_iff :
    CallerOptsKept p noun co sl (reachedOpts p noun co sl) ↔ KeepsPool co sl := by
  unfold KeepsPool
  cases given : co.sigVerifier with
  | some key =>
    refine iff_of_true ⟨reachedOpts_key given, ?_⟩ (.inl (Option.some_ne_none _))
    intro before sig rest cert _ keyless
    exact absurd (given.symm.trans keyless) (Option.some_ne_none _)
  | none =>
    simp only [ne_eq, not_true_eq_false, false_or]
    constructor
    · intro kept
      have last := kept.frame
      rw [reachedOpts_chain given] at last
      refine ⟨congrArg CheckOpts.intermediateCerts last, ?_⟩
      rintro ⟨sig, member, ⟨cert, certified⟩, chainless⟩
      obtain ⟨before, rest, split⟩ := List.append_of_mem member
      obtain ⟨used, validated, same⟩ :=
        kept.supplied before sig rest cert split given certified chainless
      rw [entryVerifier_chainless (reachedOpts_keyless given) certified chainless] at validated
      have wiped : withPool (reachedOpts p noun co before) none = used :=
        congrArg Prod.fst validated
      rw [← same, ← wiped]
      rfl
    · rintro ⟨last, unsupplied⟩
      refine ⟨?_, ?_⟩
      · rw [reachedOpts_chain given, last]
        rfl
      · intro before sig rest cert split _ certified chainless
        have member : sig ∈ sl := by
          rw [split]
          exact List.mem_append_right _ List.mem_cons_self
        refine ⟨_, entryVerifier_chainless (reachedOpts_keyless given) certified chainless, ?_⟩
        rw [unsupplied ⟨sig, member, ⟨cert, certified⟩, chainless⟩]
        rfl

/-- **The caller's options are kept exactly when the entries write back what was there.** This holds
of both loops: with the caller's key nothing is written; without one the last chain that was read
has to have the caller's intermediate certificates, and an entry without a chain is validated with
them only if there are none. -/
theorem caller_opts_kept_iff (p : Platform) (sl : List Signature) (h : Hash) (co : CheckOpts) :
    (∀ after list flag err,
      verifySignatures p (.ok sl) h co = .ok (after, list, flag, err) →
      (CallerOptsKept p "signature" co sl after ↔ KeepsPool co sl)) ∧
    (∀ after list flag err,
      verifyImageAttestations p (.ok sl) h co = .ok (after, list, flag, err) →
      (CallerOptsKept p "attestation" co sl after ↔ KeepsPool co sl)) := by
  constructor
  · intro after list flag err run
    rw [verifySignatures_eq] at run
    rw [verifyEntries_opts run]
    exact callerOptsKept_iff
  · intro after list flag err run
    rw [verifyImageAttestations_eq] at run
    rw [verifyEntries_opts run]
    exact callerOptsKept_iff

/-- Options of a caller with an intermediate authority of its own. -/
def sampleAuthorityOpts : CheckOpts where
  rootCerts := some CertPool.empty
  intermediateCerts := some (CertPool.empty.addCert sampleCert)

/-- With the caller's key the options are kept. -/
theorem caller_opts_kept_iff_key :
    ∃ after list flag err,
      verifySignatures samplePlatform (.ok samplePair) sampleImage sampleKeyOpts =
        .ok (after, list, flag, err) ∧
      CallerOptsKept samplePlatform "signature" sampleKeyOpts samplePair after := by
  have returns : Returns (verifySignatures samplePlatform (.ok samplePair) sampleImage
      sampleKeyOpts) := by
    decide +kernel
  obtain ⟨⟨after, list, flag, err⟩, run⟩ := returns
  refine ⟨after, list, flag, err, run, ?_⟩
  have kept := (caller_opts_kept_iff samplePlatform samplePair sampleImage sampleKeyOpts).1
  exact (kept after list flag err run).mpr (.inl (Option.some_ne_none _))

/-- One signature with a certificate and no chain wipes the intermediate certificates of the
caller before its certificate is validated, and leaves them wiped. -/
theorem caller_pool_wiped :
    ∃ after list flag err,
      verifySignatures samplePlatform (.ok [sampleLayer "AQ==" (some sampleCert) none])
        sampleImage sampleAuthorityOpts = .ok (after, list, flag, err) ∧
      after.intermediateCerts = none ∧
      sampleAuthorityOpts.intermediateCerts = some ⟨[sampleCert]⟩ ∧
      ¬CallerOptsKept samplePlatform "signature" sampleAuthorityOpts
        [sampleLayer "AQ==" (some sampleCert) none] after := by
  have returns : Returns (verifySignatures samplePlatform
      (.ok [sampleLayer "AQ==" (some sampleCert) none]) sampleImage sampleAuthorityOpts) := by
    decide +kernel
  obtain ⟨⟨after, list, flag, err⟩, run⟩ := returns
  have reached : after = withPool sampleAuthorityOpts none := by
    rw [verifySignatures_eq] at run
    exact verifyEntries_opts run
  have wiped : after.intermediateCerts = none := by
    rw [reached]
    rfl
  refine ⟨after, list, flag, err, run, wiped, rfl, ?_⟩
  intro kept
  rw [kept.frame] at wiped
  exact Option.some_ne_none _ wiped

end Cosign.Verif
