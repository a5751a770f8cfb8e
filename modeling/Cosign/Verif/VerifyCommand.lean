import Cosign.Cli.Verify
import Cosign.Verif.Isolation

/-!
# What a successful verification says

The verify command gives the options of one image to the next. Checking a signature writes
intermediate certificates to them, which every signature replaces by its own
(`verifyEntries_withPool`), so an image verifies in a list exactly if it verifies alone. The command
succeeds exactly if its flags go together and every image has a signature that passes every part of
the check (`verify_command_iff`).
-/
namespace Cosign.Verif

open Cosign.Go Cosign.Cli
open Cosign.Oci (Signature Hash CertPool)
open Cosign.Verify hiding SignedEntity Signatures

variable {env : VerifyEnv} {c : VerifyCommand} {co after : CheckOpts} {img : String} {h : Hash}
  {sl list : List Signature} {flag : Bool} {pool : Option CertPool}

/-- The digest of an image and the signatures that are checked for it. -/
inductive Found (env : VerifyEnv) (c : VerifyCommand) (opts : List RemoteOption) (img : String) :
    Hash → List Signature → Prop where
  /-- Those of a layout on disk. -/
  | onDisk {se : LocalEntity} {h : Hash} {sl : List Signature} (isLocal : c.localImage = true)
      (opened : env.registry.signedImageIndex img = .ok se) (digested : se.digest = .ok h)
      (listed : se.signatures = .ok (some (.ok sl))) : Found env c opts img h sl
  /-- Those of a registry, of the image or of its attachment, or the one that is given. -/
  | remote {ref attached : String} {se : Verify.SignedEntity} {h : Hash} {sl : List Signature}
      (notLocal : c.localImage = false) (parsed : env.registry.parseReference img = .ok ref)
      (attachedTo : getAttachedImageRef env ref c.attachment opts = .ok attached)
      (read : getSignedEntity env.registry attached opts = .ok (se, h))
      (listed : signaturesToCheck env c attached opts se = .ok (.ok (.ok sl))) :
      Found env c opts img h sl

/-- An image verifies under options: none of its signatures makes the check panic, and one verifies
over its payload with the key of the options or its own certificate, has the claims and has evidence
from the log where that is asked for. -/
def ImageVerifies (env : VerifyEnv) (c : VerifyCommand) (co : CheckOpts) (img : String) : Prop :=
  ∃ h sl, Found env c co.registryClientOpts img h sl ∧
    (∀ sig ∈ sl, Returns (verifyImageSignature env.platform sig h co)) ∧
    ∃ sig ∈ sl, ∃ verifier flag, VerifiesWith env.platform sig co verifier ∧
      verifyOCISignature verifier sig = none ∧ checkClaims sig h co = none ∧
      Evidenced env.platform sig co flag

/-- The loop over signatures succeeds exactly if it does not panic and a signature is accepted. -/
theorem verifySignatures_succeeds {p : Platform} :
    (∃ after list flag, verifySignatures p (.ok sl) h co = .ok (after, list, flag, none)) ↔
      (∀ sig ∈ sl, Returns (verifyImageSignature p sig h co)) ∧
        ∃ sig ∈ sl, acceptedAlone p h co sig = true := by
  have returns : Returns (verifySignatures p (.ok sl) h co) ↔
      ∀ sig ∈ sl, Returns (verifyImageSignature p sig h co) := by
    rw [verifySignatures_eq, returns_verifyEntries]
    refine forall₂_congr fun sig _ => ?_
    rw [verifyImageSignature_eq, entryCheck_eq]
    cases entryVerdict p "signature" verifyOCISignature sig h co <;> simp [Except.map]
  constructor
  · rintro ⟨after, list, flag, run⟩
    obtain ⟨kept, nonempty⟩ := verifySignatures_list run
    obtain ⟨sig, member⟩ := List.exists_mem_of_ne_nil _ (nonempty.mp rfl)
    rw [kept, List.mem_filter] at member
    exact ⟨returns.mp ⟨_, run⟩, sig, member.1, member.2⟩
  · rintro ⟨each, sig, member, accepted⟩
    obtain ⟨⟨after, list, flag, err⟩, run⟩ := returns.mpr each
    obtain ⟨kept, nonempty⟩ := verifySignatures_list run
    have there : list ≠ [] := by
      rw [kept]
      exact List.ne_nil_of_mem (List.mem_filter.mpr ⟨member, accepted⟩)
    obtain rfl := nonempty.mpr there
    exact ⟨after, list, flag, run⟩

theorem verifySignatures_read {p : Platform} {sigs : Verify.Signatures}
    (run : verifySignatures p sigs h co = .ok (after, list, flag, none)) :
    ∃ sl, sigs = .ok sl := by
  cases sigs with
  | error err => cases run
  | ok sl => exact ⟨sl, rfl⟩

/-- There is something to trust: root certificates or a key. -/
def Trusts (co : CheckOpts) : Prop := (co.rootCerts.isNone && co.sigVerifier.isNone) = false

/-- There is something to trust, the signatures of an image are found, and the loop over them
returns some of them. -/
def Succeeds (env : VerifyEnv) (c : VerifyCommand) (co : CheckOpts) (img : String)
    (result : CheckOpts × List Signature × Bool) : Prop :=
  Trusts co ∧ ∃ h sl, Found env c co.registryClientOpts img h sl ∧
    verifySignatures env.platform (.ok sl) h co = .ok (result.1, result.2.1, result.2.2, none)

theorem verifyLocalImageSignatures_eq_ok (isLocal : c.localImage = true)
    (run : verifyLocalImageSignatures env.platform env.registry img co =
      .ok (after, list, flag, none)) : Succeeds env c co img (after, list, flag) := by
  unfold verifyLocalImageSignatures at run
  split at run
  · cases run
  · next trusted =>
    refine ⟨Bool.eq_false_iff.mpr trusted, ?_⟩
    cases opened : env.registry.signedImageIndex img with
    | error err => simp [opened, Outcome.failed] at run
    | ok se =>
      cases digested : se.digest with
      | error err => simp [opened, digested, Outcome.failed] at run
      | ok h =>
        cases listed : se.signatures with
        | error err => simp [opened, digested, listed, Outcome.failed] at run
        | ok sigs =>
          simp only [opened, digested, listed] at run
          obtain ⟨read, there, run⟩ := bind_eq_ok.mp run
          obtain ⟨sl, rfl⟩ := verifySignatures_read run
          cases sigs with
          | none => cases there
          | some sigs =>
            cases there
            exact ⟨h, sl, .onDisk isLocal opened digested listed, run⟩

theorem verifyImageSignaturesOf_eq_ok {ref attached : String} (notLocal : c.localImage = false)
    (parsed : env.registry.parseReference img = .ok ref)
    (attachedTo : getAttachedImageRef env ref c.attachment co.registryClientOpts = .ok attached)
    (run : verifyImageSignaturesOf env c attached co = .ok (after, list, flag, none)) :
    Succeeds env c co img (after, list, flag) := by
  unfold verifyImageSignaturesOf at run
  split at run
  · cases run
  · next trusted =>
    refine ⟨Bool.eq_false_iff.mpr trusted, ?_⟩
    cases read : getSignedEntity env.registry attached co.registryClientOpts with
    | error err => simp [read, Outcome.failed] at run
    | ok found =>
      obtain ⟨se, h⟩ := found
      simp only [read] at run
      obtain ⟨given, listed, run⟩ := bind_eq_ok.mp run
      cases given with
      | error err => cases run
      | ok sigs =>
        obtain ⟨sl, rfl⟩ := verifySignatures_read run
        exact ⟨h, sl, .remote notLocal parsed attachedTo read listed, run⟩

theorem verifyExecImage_eq_ok :
    verifyExecImage env c co img = .ok (after, list, flag, none) ↔
      Succeeds env c co img (after, list, flag) := by
  constructor
  · intro run
    unfold verifyExecImage at run
    cases disk : c.localImage with
    | true =>
      rw [disk, if_pos rfl] at run
      exact verifyLocalImageSignatures_eq_ok disk run
    | false =>
      rw [disk, if_neg Bool.false_ne_true] at run
      cases parsed : env.registry.parseReference img with
      | error err => simp [parsed, Outcome.failed] at run
      | ok ref =>
        cases attachedTo : getAttachedImageRef env ref c.attachment co.registryClientOpts with
        | error err => simp [parsed, attachedTo, Outcome.failed] at run
        | ok attached =>
          simp only [parsed, attachedTo] at run
          exact verifyImageSignaturesOf_eq_ok disk parsed attachedTo run
  · rintro ⟨trusted, h, sl, found, run⟩
    unfold Trusts at trusted
    cases found with
    | onDisk isLocal opened digested listed =>
      simp only [verifyExecImage, isLocal, verifyLocalImageSignatures, trusted, opened, digested,
        listed, if_true, Bool.false_eq_true, if_false]
      exact run
    | remote notLocal parsed attachedTo read listed =>
      simp only [verifyExecImage, notLocal, verifyImageSignaturesOf, trusted, parsed, attachedTo,
        read, listed, Bool.false_eq_true, if_false]
      exact run

/-- An image verifies from options with other intermediate certificates as it does from the options
themselves, and leaves such options. -/
theorem verifyExecImage_withPool
    (run : verifyExecImage env c (withPool co pool) img = .ok (after, list, flag, none)) :
    (∃ pool, after = withPool co pool) ∧
      ∃ after' flag', verifyExecImage env c co img = .ok (after', list, flag', none) := by
  obtain ⟨trusted, h, sl, found, run⟩ := verifyExecImage_eq_ok.mp run
  rw [verifySignatures_eq] at run
  obtain ⟨left, after', flag', run'⟩ := verifyEntries_withPool run
  rw [← verifySignatures_eq] at run'
  exact ⟨left, after', flag', verifyExecImage_eq_ok.mpr ⟨trusted, h, sl, found, run'⟩⟩

/-- The loop over images succeeds from options with other intermediate certificates exactly if every
image verifies from the options themselves. -/
theorem verifyExecImages_eq_none (co : CheckOpts) (pool : Option CertPool) (images : List String) :
    verifyExecImages env c (withPool co pool) images = .ok none ↔
      ∀ img ∈ images, ∃ after list flag,
        verifyExecImage env c co img = .ok (after, list, flag, none) := by
  induction images generalizing pool with
  | nil => simp [verifyExecImages]
  | cons img rest ih =>
    rw [List.forall_mem_cons, verifyExecImages, bind_eq_ok]
    constructor
    · rintro ⟨⟨after, list, flag, err⟩, run, others⟩
      cases err with
      | some err => cases others
      | none =>
        obtain ⟨⟨pool', rfl⟩, alone⟩ := verifyExecImage_withPool run
        obtain ⟨after', flag', alone⟩ := alone
        exact ⟨⟨after', list, flag', alone⟩, (ih pool').mp others⟩
    · rintro ⟨⟨after, list, flag, alone⟩, others⟩
      -- The options themselves are options with other certificates of those with the pool.
      have shifted : verifyExecImage env c (withPool (withPool co pool) co.intermediateCerts) img =
          .ok (after, list, flag, none) := alone
      obtain ⟨-, after', flag', run⟩ := verifyExecImage_withPool shifted
      obtain ⟨⟨pool', rfl⟩, -⟩ := verifyExecImage_withPool run
      exact ⟨_, run, (ih pool').mpr others⟩

/-- The body of the loop succeeds exactly for an image that verifies. -/
theorem imageVerifies_iff (trusted : Trusts co) :
    (∃ after list flag, verifyExecImage env c co img = .ok (after, list, flag, none)) ↔
      ImageVerifies env c co img := by
  unfold ImageVerifies
  simp only [← acceptedAlone_iff, ← verifySignatures_succeeds, verifyExecImage_eq_ok, Succeeds]
  constructor
  · rintro ⟨after, list, flag, -, h, sl, found, run⟩
    exact ⟨h, sl, found, after, list, flag, run⟩
  · rintro ⟨h, sl, found, after, list, flag, run⟩
    exact ⟨after, list, flag, trusted, h, sl, found, run⟩

/-- **What a successful verification says.** The verify command succeeds exactly if there are
images, the attachment is known, exactly one of key, certificate and token is given or the
experimental mode is on, the options can be built and have a key or root certificates, and every
image has a signature that passes every part of the check under these options. -/
theorem verify_command_iff (env : VerifyEnv) (c : VerifyCommand) (images : List String) :
    verifyExec env c images = .ok none ↔
      images ≠ [] ∧ c.attachment ∈ ["sbom", ""] ∧
      (oneOf [c.keyRef ≠ "", c.certRef ≠ "", c.sk] = true ∨
        enableExperimental env.platform = true) ∧
      ∃ co, verifyCheckOpts env c = .ok co ∧ Trusts co ∧
        ∀ img ∈ images, ImageVerifies env c co img := by
  have refused : ∀ err : GoError, (.ok (some err) : Call (Option GoError)) ≠ .ok none :=
    fun err same => Option.some_ne_none err (Except.ok.inj same)
  unfold verifyExec
  by_cases empty : images.length = 0
  · rw [if_pos empty]
    exact iff_of_false (refused _) fun all => all.1 (List.length_eq_zero_iff.mp empty)
  rw [if_neg empty]
  by_cases known : c.attachment ∈ ["sbom", ""]
  · rw [if_neg (not_not_intro known)]
    have unchosen : (!oneOf [c.keyRef ≠ "", c.certRef ≠ "", c.sk] &&
        !enableExperimental env.platform) = true ↔
        ¬(oneOf [c.keyRef ≠ "", c.certRef ≠ "", c.sk] = true ∨
          enableExperimental env.platform = true) := by simp
    by_cases chosen : oneOf [c.keyRef ≠ "", c.certRef ≠ "", c.sk] = true ∨
        enableExperimental env.platform = true
    · rw [if_neg (mt unchosen.mp (not_not_intro chosen))]
      have some_image : images ≠ [] := fun none_left => empty (by rw [none_left]; rfl)
      cases built : verifyCheckOpts env c with
      | error err => simp
      | ok co =>
        have each : verifyExecImages env c co images = .ok none ↔ _ :=
          verifyExecImages_eq_none co co.intermediateCerts images
        dsimp only
        rw [each]
        constructor
        · intro verified
          obtain ⟨img, member⟩ := List.exists_mem_of_ne_nil images some_image
          obtain ⟨after, list, flag, run⟩ := verified img member
          have trusted := (verifyExecImage_eq_ok.mp run).1
          exact ⟨some_image, known, chosen, co, rfl, trusted, fun img member =>
            (imageVerifies_iff trusted).mp (verified img member)⟩
        · rintro ⟨-, -, -, co', ⟨⟩, trusted, verified⟩ img member
          exact (imageVerifies_iff trusted).mpr (verified img member)
    · rw [if_pos (unchosen.mpr chosen)]
      exact iff_of_false (refused _) fun all => chosen all.2.2.1
  · rw [if_pos known]
    exact iff_of_false (refused _) fun all => known all.2.1

end Cosign.Verif
