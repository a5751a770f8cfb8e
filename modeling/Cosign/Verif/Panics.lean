import Cosign.Verif.Isolation
import Cosign.Verif.Tlog

/-!
# Panics on registry data

Verification follows pointers and asserts a type in the bundle of a layer, which is attacker's data,
before anything vouches for it. Which layers stop the whole run is decided by the shape of the
bundle alone (`registry_data_returns_iff`), provided the log server sends the fields that its API
requires.
-/
namespace Cosign.Verif

open Cosign.Go Cosign.Encoding Cosign.Oci Cosign.Verify Cosign.Spec

variable {p : Platform} {client : RekorClient} {sig : Signature} {h : Hash} {co : CheckOpts}
  {e : LogEntryAnon} {verifier : Verifier}

/-- An entry has the fields that the API of the log requires. -/
structure EntryComplete (e : LogEntryAnon) : Prop where
  body : ∃ text, e.body = .str text
  /-- The integrated time is there. -/
  integratedTime : e.integratedTime ≠ none
  /-- The log index is there. -/
  logIndex : e.logIndex ≠ none
  /-- The log identifier is there. -/
  logID : e.logID ≠ none
  /-- The fields of an inclusion proof are there. -/
  proof : ∀ verification proof, e.verification = some verification →
    verification.inclusionProof = some proof →
    proof.rootHash ≠ none ∧ proof.logIndex ≠ none ∧ proof.treeSize ≠ none

/-- The server sends complete entries only. -/
def ServerComplete (client : RekorClient) : Prop :=
  ∀ proposed answer (logEntry : GoMap LogEntryAnon) uuid e,
    client.searchLogQuery proposed = .ok answer → logEntry ∈ answer →
    ⟨uuid, e⟩ ∈ logEntry.entries → EntryComplete e

theorem returns_deref {α : Type} {pointer : Option α} (set : pointer ≠ none) :
    ∃ value, deref pointer = .ok value := by
  obtain ⟨value, rfl⟩ := Option.ne_none_iff_exists'.mp set
  exact ⟨value, rfl⟩

theorem returns_verifyUUID (p : Platform) (uuid : String) (complete : EntryComplete e) :
    Returns (verifyUUID p uuid e) := by
  obtain ⟨body, text⟩ := complete.body
  simp only [verifyUUID, computeLeafHash, text, assertString, bind, Except.bind]
  cases Base64.stdDecode body with
  | none => exact returns_ok _
  | some bytes =>
    dsimp only
    split <;> exact returns_ok _

/-- The choice of the sole entry of an answer returns if all entries of the answer are
complete. -/
theorem returns_soleEntry (p : Platform) {answer : List (GoMap LogEntryAnon)}
    (complete : ∀ logEntry ∈ answer, ∀ uuid e, ⟨uuid, e⟩ ∈ logEntry.entries → EntryComplete e) :
    Returns (soleEntry p answer) := by
  unfold soleEntry
  split
  · exact returns_ok _
  · exact returns_ok _
  · rename_i logEntry
    split
    · rename_i uuid e sole
      have sent : EntryComplete e :=
        complete logEntry (List.mem_singleton.mpr rfl) uuid e (by simp [sole])
      obtain ⟨outcome, verified⟩ := returns_verifyUUID p uuid sent
      rw [returns_bind]
      refine ⟨outcome, verified, ?_⟩
      cases outcome <;> exact returns_ok _
    · exact returns_ok _

/-- `FindTlogEntry` returns with a server that sends complete entries. -/
theorem returns_findTlogEntry (p : Platform) (b64sig : String) (payload pem : Bytes)
    (complete : ServerComplete client) : Returns (findTlogEntry p client b64sig payload pem) := by
  unfold findTlogEntry
  split
  · exact returns_ok _
  · split
    · exact returns_ok _
    · rename_i proposed _ _ answer answered
      apply returns_soleEntry
      intro logEntry sent uuid e listed
      exact complete proposed answer logEntry uuid e answered sent listed

/-- The search returns with a server that sends complete entries. -/
theorem returns_findSignature (p : Platform) (sig : Signature) (pem : Except GoError Bytes)
    (complete : ServerComplete client) : Returns (findSignature p client sig pem) := by
  unfold findSignature
  split
  · exact returns_ok _
  · split
    · exact returns_ok _
    · split
      · exact returns_ok _
      · exact returns_findTlogEntry p _ _ _ complete

theorem findSignature_complete {pem : Except GoError Bytes} (complete : ServerComplete client)
    (found : findSignature p client sig pem = .ok (.ok e)) : EntryComplete e := by
  obtain ⟨pemBytes, proposed, uuid, -, answers, -⟩ := findSignature_eq_ok.mp found
  obtain ⟨logEntry, answered, sole⟩ := answers.answered
  exact complete [proposed] [logEntry] logEntry uuid e answered (List.mem_singleton.mpr rfl)
    (by simp [sole])

theorem returns_verifyTLogEntry (p : Platform) (client : RekorClient)
    (complete : EntryComplete e) : Returns (verifyTLogEntry p client e) := by
  obtain ⟨body, text⟩ := complete.body
  unfold verifyTLogEntry
  split
  · exact returns_ok _
  · rename_i verification verifiable
    split
    · exact returns_ok _
    · rename_i proof proven
      obtain ⟨root, index, size⟩ := complete.proof verification proof verifiable proven
      obtain ⟨rootHash, root⟩ := returns_deref root
      obtain ⟨logIndex, index⟩ := returns_deref index
      obtain ⟨treeSize, size⟩ := returns_deref size
      obtain ⟨integratedTime, time⟩ := returns_deref complete.integratedTime
      obtain ⟨position, position'⟩ := returns_deref complete.logIndex
      obtain ⟨logID, log⟩ := returns_deref complete.logID
      simp only [root, text, assertString, index, size, time, position', log, bind, Except.bind]
      split
      · exact returns_ok _
      · split <;> exact returns_ok _

theorem returns_tlogValidate (complete : ServerComplete client)
    (verifies : VerifiesWith p sig co verifier) : Returns (tlogValidate p co client sig) := by
  unfold tlogValidate
  split
  · split
    · exact returns_ok _
    · rename_i pub _
      obtain ⟨found, searched⟩ :=
        returns_findSignature p sig (p.marshalPublicKeyToPEM pub) complete
      rw [tlogValidatePublicKey, returns_bind]
      refine ⟨found, searched, ?_⟩
      cases found <;> exact returns_ok _
  · rename_i keyless
    obtain given | ⟨-, cert, -, certified, -⟩ := verifies
    · rw [keyless] at given
      cases given
    · obtain ⟨found, searched⟩ :=
        returns_findSignature p sig (p.marshalCertificateToPEM (some cert)) complete
      simp only [tlogValidateCertificate, certified, returns_bind]
      refine ⟨found, searched, ?_⟩
      cases found with
      | error err => exact returns_ok _
      | ok e =>
        have sent := findSignature_complete complete searched
        obtain ⟨outcome, verified⟩ := returns_verifyTLogEntry p client sent
        obtain ⟨integratedTime, time⟩ := returns_deref sent.integratedTime
        simp only [returns_bind]
        refine ⟨outcome, verified, ?_⟩
        cases outcome with
        | some err => exact returns_ok _
        | none =>
          simp only [returns_bind]
          exact ⟨integratedTime, time, cert, rfl, returns_ok _⟩

/-- The evidence part of an entry that has a verifier returns exactly on a bundle of the shape
that the checks follow. -/
theorem returns_imageSignatureEvidence
    (complete : ∀ client, co.rekorClient = some client → ServerComplete client)
    (verifies : VerifiesWith p sig co verifier) :
    Returns (imageSignatureEvidence p sig co) ↔ BundleShaped p sig := by
  rw [← returns_verifyBundle, imageSignatureEvidence, returns_bind]
  constructor
  · rintro ⟨outcome, returned, -⟩
    exact ⟨outcome, returned⟩
  · rintro ⟨⟨verified, err⟩, returned⟩
    refine ⟨(verified, err), returned, ?_⟩
    dsimp only
    split
    · exact returns_ok _
    · split
      · rename_i client configured
        obtain ⟨outcome, searched⟩ := returns_tlogValidate (complete client configured) verifies
        rw [returns_bind]
        exact ⟨outcome, searched, returns_ok _⟩
      · exact returns_ok _

/-- A layer gets as far as its bundle: it has a verifier, and its signature and its claims
verify. -/
def ReachesBundle (p : Platform) (verify : Verifier → Signature → Option GoError) (h : Hash)
    (co : CheckOpts) (sig : Signature) : Prop :=
  ∃ verifier, VerifiesWith p sig co verifier ∧ verify verifier sig = none ∧
    checkClaims sig h co = none

/-- The check of an entry returns exactly when its bundle has the shape, if it gets there. -/
theorem returns_entryVerdict_iff {noun : String}
    {verify : Verifier → Signature → Option GoError}
    (complete : ∀ client, co.rekorClient = some client → ServerComplete client) :
    Returns (entryVerdict p noun verify sig h co) ↔
      (ReachesBundle p verify h co sig → BundleShaped p sig) := by
  rw [returns_entryVerdict]
  constructor
  · rintro returns ⟨verifier, verifies, signed, claims⟩
    exact (returns_imageSignatureEvidence complete verifies).mp
      (returns verifier verifies signed claims)
  · intro shaped verifier verifies signed claims
    exact (returns_imageSignatureEvidence complete verifies).mpr
      (shaped ⟨verifier, verifies, signed, claims⟩)

/-- **Verification of registry layers returns exactly when every layer that gets as far as its
bundle has a bundle of the shape that the checks follow.** -/
theorem registry_data_returns_iff (p : Platform) (h : Hash) (sigs atts : List SigLayer)
    (complete : ∀ client, co.rekorClient = some client → ServerComplete client) :
    (Returns (verifySignatures p (.ok (sigs.map (SigLayer.signature p.pem))) h co) ∧
      Returns (verifyImageAttestations p (.ok (atts.map (SigLayer.signature p.pem))) h co)) ↔
      (∀ layer ∈ sigs, ReachesBundle p verifyOCISignature h co (layer.signature p.pem) →
        BundleShaped p (layer.signature p.pem)) ∧
      ∀ layer ∈ atts, ReachesBundle p (verifyOCIAttestation p) h co (layer.signature p.pem) →
        BundleShaped p (layer.signature p.pem) := by
  rw [verifySignatures_eq, verifyImageAttestations_eq, returns_verifyEntries,
    returns_verifyEntries]
  simp only [List.forall_mem_map, returns_entryVerdict_iff complete]

/-- A layer whose bundle annotation is an empty object. -/
def emptyBundleLayer : SigLayer where
  compressed := .ok samplePayload
  digest := sampleImage
  annotations := (AList.singleton sigkey "AQ==").insert bundleKey "\x7b\x7d"

/-- A bundle annotation that is an empty object stops the run with a failed type assertion. -/
theorem empty_bundle_panics :
    verifySignatures samplePlatform
        (.ok ([emptyBundleLayer].map (SigLayer.signature samplePlatform.pem))) sampleImage
        sampleKeyOpts = .error .typeAssertion := rfl

/-- A layer whose bundle annotation has a body that is no entry. -/
def shapedLayer : SigLayer where
  compressed := .ok samplePayload
  digest := sampleImage
  annotations := (AList.singleton sigkey "AQ==").insert bundleKey
    "\x7b\"Payload\":\x7b\"body\":\"\"\x7d\x7d"

theorem shapedLayer_shaped :
    BundleShaped samplePlatform (shapedLayer.signature samplePlatform.pem) := by
  obtain ⟨bundle', carried', text⟩ : ∃ bundle,
      (shapedLayer.signature samplePlatform.pem).bundle = .ok (some bundle) ∧
        bundle.payload.body = .str "" := ⟨_, rfl, rfl⟩
  have unread : consulted samplePlatform false "" = .error syntaxError := rfl
  intro bundle carried
  cases carried.symm.trans carried'
  refine ⟨"", text, ?_, ?_⟩
  · intro _ _ _ entry read
    cases unread.symm.trans read
  · intro signature _ cert _ entry _ certChecked
    cases certChecked.certified

/-- The condition holds of that layer, whose verification returns, and rules the other out. -/
theorem registry_data_returns_iff_shaped :
    Returns (verifySignatures samplePlatform
        (.ok ([shapedLayer].map (SigLayer.signature samplePlatform.pem))) sampleImage
        sampleKeyOpts) ∧
      ¬(ReachesBundle samplePlatform verifyOCISignature sampleImage sampleKeyOpts
          (emptyBundleLayer.signature samplePlatform.pem) →
        BundleShaped samplePlatform (emptyBundleLayer.signature samplePlatform.pem)) := by
  have complete : ∀ client, sampleKeyOpts.rekorClient = some client → ServerComplete client := by
    intro client configured
    cases configured
  constructor
  · exact ((registry_data_returns_iff samplePlatform sampleImage [shapedLayer] [] complete).mpr
      ⟨List.forall_mem_singleton.mpr fun _ => shapedLayer_shaped, nofun⟩).1
  · intro shaped
    obtain ⟨⟨outcome, run⟩, -⟩ := (registry_data_returns_iff samplePlatform sampleImage
      [emptyBundleLayer] [] complete).mpr ⟨List.forall_mem_singleton.mpr shaped, nofun⟩
    cases run

end Cosign.Verif
