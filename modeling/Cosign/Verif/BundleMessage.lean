import Cosign.Cli.Verify
import Cosign.Go.Results
import Cosign.Verif.Binding
import Cosign.Verif.Isolation

/-!
# The message about verified bundles

The loops report one flag for all entries: it is set as soon as the bundle of one entry is verified,
and the header then speaks of each of the signatures. The flag does not come from an entry that was
left out, but it says nothing about the other entries that were returned (`bundle_message_iff`).
-/
namespace Cosign.Verif

open Cosign.Go Cosign.Encoding Cosign.Oci Cosign.Verify Cosign.Cli

variable {p : Platform} {noun nouns : String} {verify : Verifier → Signature → Option GoError}
  {h : Hash} {co after : CheckOpts} {sig : Signature} {sl list : List Signature} {flag : Bool}
  {err : Option GoError}

/-- `VerifyBundle` returns true for an entry. -/
def BundleVerified (p : Platform) (sig : Signature) : Prop :=
  verifyBundle p sig = .ok (true, none)

/-- Whether a bundle verifies can be evaluated. -/
instance (sig : Signature) : Decidable (BundleVerified p sig) :=
  inferInstanceAs (Decidable (_ = _))

/-- An entry that passes is reported with a verified bundle exactly when it has one. -/
theorem Evidenced.flag_iff (evidenced : Evidenced p sig co flag) :
    flag = true ↔ BundleVerified p sig := by
  unfold BundleVerified
  cases evidenced with
  | bundle verified => simp [verified]
  | log configured outcome searched => simp [outcome]
  | nothing configured outcome => simp [outcome]

/-- The evidence part reports a verified bundle only without an error. -/
theorem imageSignatureEvidence_flagged
    (found : imageSignatureEvidence p sig co = .ok (true, err)) : err = none := by
  obtain ⟨⟨verified, failure⟩, outcome, rest⟩ := bind_eq_ok.mp found
  dsimp only at rest
  split at rest
  · cases rest
  · split at rest
    · obtain ⟨searched, -, rest⟩ := bind_eq_ok.mp rest
      cases rest
    · cases rest
      rfl

theorem entryVerdict_flagged (found : entryVerdict p noun verify sig h co = .ok (true, err)) :
    err = none := by
  unfold entryVerdict at found
  split at found
  · cases found
  · split at found
    · cases found
    · split at found
      · cases found
      · exact imageSignatureEvidence_flagged found

/-- What the state of a loop says of bundles: the flag is set exactly when the bundle of some
entry that was kept is verified. -/
def FlagExact (p : Platform) (state : LoopState) : Prop :=
  state.bundleVerified = true ↔ ∃ sig ∈ state.checked, BundleVerified p sig

theorem entryStep_flagExact {state next : LoopState} (exact : FlagExact p state)
    (stepped : entryStep p noun verify h state sig = .ok next) : FlagExact p next := by
  rw [entryStep, entryCheck_eq] at stepped
  cases verdict : entryVerdict p noun verify sig h state.co with
  | error panic =>
    rw [verdict] at stepped
    cases stepped
  | ok outcome =>
    obtain ⟨flag, err⟩ := outcome
    rw [verdict] at stepped
    rw [← Except.ok.inj stepped]
    cases err with
    | some failure =>
      -- a rejected entry adds nothing to the list and nothing to the flag
      have unset : flag = false := by
        by_contra set
        rw [Bool.not_eq_false] at set
        rw [set] at verdict
        exact Option.some_ne_none _ (entryVerdict_flagged verdict)
      simpa [FlagExact, nextState, unset] using exact
    | none =>
      obtain ⟨-, -, -, -, evidenced⟩ := entryVerdict_accepts.mp verdict
      have said := evidenced.flag_iff
      show (state.bundleVerified || flag) = true ↔
        ∃ kept ∈ state.checked ++ [sig], BundleVerified p kept
      rw [Bool.or_eq_true, said, show state.bundleVerified = true ↔ _ from exact]
      simp only [List.mem_append, List.mem_singleton, or_and_right, exists_or, exists_eq_left]

/-- The flag that a loop reports is set exactly when the bundle of some returned entry is
verified. -/
theorem verifyEntries_flag {sigs : Except GoError (List Signature)}
    (run : verifyEntries p noun nouns verify sigs h co = .ok (after, list, flag, err)) :
    flag = true ↔ ∃ sig ∈ list, BundleVerified p sig := by
  cases sigs with
  | error failure =>
    cases run
    simp
  | ok sl =>
    obtain ⟨state, loop, result⟩ := bind_eq_ok.mp run
    have start : FlagExact p ⟨co, [], false, []⟩ := by simp [FlagExact]
    have exact : FlagExact p state :=
      foldlM_invariant (fun _ holds _ _ _ stepped => entryStep_flagExact holds stepped) start loop
    unfold LoopState.result at result
    split at result
    · cases result
      simp
    · cases result
      exact exact

/-- The flag says of every returned entry that its bundle is verified. -/
def FlagTruthful (p : Platform) (list : List Signature) (flag : Bool) : Prop :=
  flag = true → ∀ sig ∈ list, BundleVerified p sig

/-- No two of the returned entries differ in whether their bundle is verified. -/
def Unmixed (p : Platform) (list : List Signature) : Prop :=
  ∀ sig ∈ list, ∀ other ∈ list, BundleVerified p sig → BundleVerified p other

/-- A flag that is set exactly when some entry has a verified bundle is truthful exactly when the
entries do not differ. -/
theorem flagTruthful_iff (exact : flag = true ↔ ∃ sig ∈ list, BundleVerified p sig) :
    FlagTruthful p list flag ↔ Unmixed p list := by
  unfold FlagTruthful Unmixed
  rw [exact]
  constructor
  · intro truthful sig inside other insideToo verified
    exact truthful ⟨sig, inside, verified⟩ other insideToo
  · intro unmixed ⟨sig, insideToo, verified⟩ other inside
    exact unmixed sig insideToo other inside verified

theorem imageLine_ne (imgRef : String) : "Verification for " ++ imgRef ++ " --" ≠ offlineLine := by
  intro same
  have chars := congrArg (fun text => text.toList.head?) same
  simp [offlineLine, String.toList_append] at chars

/-- The header has the line about bundles exactly when the flag is set. -/
theorem offlineLine_mem_header {imgRef : String} {fulcioVerified : Bool} :
    offlineLine ∈ printVerificationHeader imgRef co flag fulcioVerified ↔ flag = true := by
  have image : offlineLine ≠ "Verification for " ++ imgRef ++ " --" := (imageLine_ne imgRef).symm
  have claims : offlineLine ∉ claimLines co := by
    unfold claimLines
    split
    · split <;> decide
    · decide
  have log : offlineLine ∈ logLines co flag ↔ flag = true := by
    cases flag with
    | true => simp [logLines]
    | false =>
      refine iff_of_false ?_ (by decide)
      show offlineLine ∉ if co.rekorClient.isSome then _ else []
      split <;> decide
  have key : offlineLine ∉ if co.sigVerifier.isSome then
      ["  - The signatures were verified against the specified public key"] else [] := by
    split <;> decide
  have roots : offlineLine ∉ if fulcioVerified then
      ["  - Any certificates were verified against the Fulcio roots."] else [] := by
    split <;> decide
  have top : offlineLine ∉ ["", "Verification for " ++ imgRef ++ " --",
      "The following checks were performed on each of these signatures:"] := by
    simp only [List.mem_cons, image, List.not_mem_nil, or_false, false_or, not_or]
    decide
  unfold printVerificationHeader
  simp only [List.mem_append, top, claims, log, key, roots, false_or, or_false]

/-- The message of a loop, by the entries that pass on their own. -/
theorem verifyEntries_message
    (run : verifyEntries p noun nouns verify (.ok sl) h co = .ok (after, list, flag, err)) :
    (FlagTruthful p list flag ↔ Unmixed p (sl.filter (passesAlone p noun verify h co))) ∧
      ∀ imgRef fulcioVerified,
        (offlineLine ∈ printVerificationHeader imgRef after flag fulcioVerified ↔
          ∃ sig ∈ sl.filter (passesAlone p noun verify h co), BundleVerified p sig) := by
  have exact := verifyEntries_flag run
  have kept := (verifyEntries_eq_ok run).1
  rw [← kept]
  refine ⟨flagTruthful_iff exact, fun imgRef fulcioVerified => ?_⟩
  rw [offlineLine_mem_header, exact]

/-- **The message about bundles is truthful exactly when the entries of the input that are accepted
on their own do not differ** in whether their bundle is verified, for signatures and for
attestations. The header of either command has the line exactly when one of these entries has a
verified bundle. -/
theorem bundle_message_iff (p : Platform) (sl : List Signature) (h : Hash) (co : CheckOpts) :
    (∀ after list flag err, verifySignatures p (.ok sl) h co = .ok (after, list, flag, err) →
      (FlagTruthful p list flag ↔ Unmixed p (sl.filter (acceptedAlone p h co))) ∧
      ∀ imgRef fulcioVerified,
        (offlineLine ∈ printVerificationHeader imgRef after flag fulcioVerified ↔
          ∃ sig ∈ sl.filter (acceptedAlone p h co), BundleVerified p sig)) ∧
    ∀ after list flag err, verifyImageAttestations p (.ok sl) h co = .ok (after, list, flag, err) →
      (FlagTruthful p list flag ↔
        Unmixed p (sl.filter (passesAlone p "attestation" (verifyOCIAttestation p) h co))) ∧
      ∀ imgRef fulcioVerified,
        (offlineLine ∈ printVerificationHeader imgRef after flag fulcioVerified ↔
          ∃ sig ∈ sl.filter (passesAlone p "attestation" (verifyOCIAttestation p) h co),
            BundleVerified p sig) := by
  rw [verifySignatures_eq, verifyImageAttestations_eq]
  exact ⟨fun _ _ _ _ => verifyEntries_message, fun _ _ _ _ => verifyEntries_message⟩

/-- A layer with a bundle that verifies. -/
def bundledLayer : Signature := sampleLayer "AQ==" none (some (sampleHashedrekordBody "00"))

theorem bundledLayer_verified : BundleVerified samplePlatform bundledLayer := by
  obtain ⟨body, pubKey, entry, checked, -, -⟩ := sampleLayer_checked "00" none
  exact verifyBundle_accepts.mpr ⟨rfl, _, body, "AQ==", pubKey, checked, .inl rfl⟩

/-- A signature with a bundle and one without. -/
def mixedPair : List Signature := [bundledLayer, sampleLayer "AQ==" none none]

theorem sampleLayer_passes {body : Option Json}
    (evidenced : ∃ flag,
      Evidenced samplePlatform (sampleLayer "AQ==" none body) sampleKeyOpts flag) :
    passesAlone samplePlatform "signature" verifyOCISignature sampleImage sampleKeyOpts
      (sampleLayer "AQ==" none body) = true := by
  obtain ⟨flag, evidenced⟩ := evidenced
  apply decide_eq_true
  apply accepts_entryCheck.mpr
  exact ⟨sampleVerifier, flag, .inl rfl, rfl, rfl, evidenced⟩

/-- Layers that pass are returned, with the flag if the bundled one is among them. -/
theorem bundledLayer_run {layers : List Signature}
    (passes : ∀ sig ∈ layers, acceptedAlone samplePlatform sampleImage sampleKeyOpts sig = true)
    (bundled : bundledLayer ∈ layers) : ∃ after,
    verifySignatures samplePlatform (.ok layers) sampleImage sampleKeyOpts =
      .ok (after, layers, true, none) := by
  have ⟨after, flag, run⟩ : ∃ after flag, verifyEntries samplePlatform "signature" "signatures"
      verifyOCISignature (.ok layers) sampleImage sampleKeyOpts =
        .ok (after, layers, flag, none) :=
    verifyEntries_all (List.ne_nil_of_mem bundled) passes
  have set : flag = true := (verifyEntries_flag run).mpr ⟨_, bundled, bundledLayer_verified⟩
  rw [set] at run
  exact ⟨after, (verifySignatures_eq _).trans run⟩

theorem bundledLayer_passes :
    acceptedAlone samplePlatform sampleImage sampleKeyOpts bundledLayer = true :=
  sampleLayer_passes ⟨true, .bundle bundledLayer_verified⟩

theorem mixedPair_passes : ∀ sig ∈ mixedPair,
    acceptedAlone samplePlatform sampleImage sampleKeyOpts sig = true :=
  List.forall_mem_cons.mpr ⟨bundledLayer_passes,
    List.forall_mem_singleton.mpr (sampleLayer_passes ⟨false, .nothing rfl rfl⟩)⟩

/-- A signature without a bundle is returned beside one with a verified bundle, and the header
says of each that its existence in the log was verified offline. -/
theorem unbundled_signature_announced : ∃ after,
    verifySignatures samplePlatform (.ok mixedPair) sampleImage sampleKeyOpts =
      .ok (after, mixedPair, true, none) ∧
    offlineLine ∈ printVerificationHeader "image" after true false ∧
    ∃ sig ∈ mixedPair, verifyBundle samplePlatform sig = .ok (false, none) := by
  have ⟨after, run⟩ := bundledLayer_run mixedPair_passes List.mem_cons_self
  refine ⟨after, run, offlineLine_mem_header.mpr rfl, sampleLayer "AQ==" none none, ?_, rfl⟩
  exact List.mem_cons_of_mem _ List.mem_cons_self

/-- The flag is not truthful for that pair, and it is for the bundled signature alone. -/
theorem bundle_message_iff_mixed :
    ¬FlagTruthful samplePlatform mixedPair true ∧
      FlagTruthful samplePlatform [bundledLayer] true := by
  constructor
  · have ⟨after, run⟩ := bundledLayer_run mixedPair_passes List.mem_cons_self
    rw [((bundle_message_iff _ _ _ _).1 _ _ _ _ run).1, List.filter_eq_self.mpr mixedPair_passes]
    intro unmixed
    cases unmixed bundledLayer List.mem_cons_self _ (List.mem_cons_of_mem _ List.mem_cons_self)
      bundledLayer_verified
  · have passes : ∀ sig ∈ [bundledLayer],
        acceptedAlone samplePlatform sampleImage sampleKeyOpts sig = true :=
      List.forall_mem_singleton.mpr bundledLayer_passes
    have ⟨after, run⟩ := bundledLayer_run passes List.mem_cons_self
    rw [((bundle_message_iff _ _ _ _).1 _ _ _ _ run).1, List.filter_eq_self.mpr passes]
    intro sig _ other listed _
    exact List.mem_singleton.mp listed ▸ bundledLayer_verified

end Cosign.Verif
