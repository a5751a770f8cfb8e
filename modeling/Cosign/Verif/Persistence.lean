import Cosign.Remote.Registry
import Cosign.Verif.Concurrent
import Cosign.Verif.Isolation
import Cosign.Verif.Sources

/-!
# Verification persists

The loop over the signatures of an image judges each of them alone, and publication only adds to the
list. So an image that verifies goes on to verify while others sign and attest it
(`verified_stays_verified`), unless a new signature makes the loop panic.
-/
namespace Cosign.Verif

open Cosign.Go Cosign.Encoding Cosign.Oci Cosign.Spec
open Cosign.Remote (DigestNames tagOption reader Publication Service ServiceRun Faults Digest
  TagOption signatureTag makeOptions)
open Cosign.Verify (Repository Platform CheckOpts Outcome verifyImageSignatures verifySignatures)

variable {pem : PemLoader} {opts : List TagOption} {runs : Publication → Prop}
  {registry : Remote.Registry} {faults : Faults} {repository : Repository} {digest : Digest}
  {se : SignedEntity} {base : Signatures}

theorem manifests_kept {service next : Service} (run : ServiceRun pem opts runs service next) :
    next.registry.manifests = service.registry.manifests := by
  induction run with
  | refl => rfl
  | tail _ step ih =>
    rw [← ih]
    cases step with
    | read publication may => rfl
    | write before after client waiting =>
      rw [runFrom_fst]
      cases plan pem opts client <;> rfl

/-- An entity that is found has a manifest of a kind that is known. -/
theorem signedEntity_manifest
    (found : Remote.signedEntity pem registry faults repository digest opts = .ok se) :
    ∃ mediaType kind, registry.manifests repository digest.hash = some mediaType ∧
      Remote.entityKind mediaType = some kind := by
  unfold Remote.signedEntity at found
  cases got : Remote.remoteGet registry faults repository digest with
  | error err =>
    rw [got] at found
    cases err with
    | other err => cases found
    | transport statusCode err =>
      dsimp only at found
      split at found <;> cases found
  | ok mediaType =>
    rw [got] at found
    have held : registry.manifests repository digest.hash = some mediaType := by
      unfold Remote.remoteGet at got
      split at got
      · cases got
      · split at got
        · cases got
        · next listed =>
          cases got
          exact listed
    cases kind : Remote.entityKind mediaType with
    | none =>
      dsimp only at found
      rw [kind] at found
      cases found
    | some kind' => exact ⟨mediaType, kind', held, kind⟩

/-- An entity that is found is found again when no call fails and the manifests are the same. -/
theorem signedEntity_again {registry next : Remote.Registry}
    (same : next.manifests = registry.manifests)
    (found : Remote.signedEntity pem registry faults repository digest opts = .ok se) :
    ∃ again, Remote.signedEntity pem next .nothing repository digest opts = .ok again := by
  obtain ⟨mediaType, kind, held, known⟩ := signedEntity_manifest found
  have got : Remote.remoteGet next .nothing repository digest = .ok mediaType := by
    unfold Remote.remoteGet
    rw [same, held]
    rfl
  unfold Remote.signedEntity
  rw [got]
  dsimp only
  rw [known]
  exact ⟨_, rfl⟩

variable {p : Platform} {names : DigestNames} {ref : String} {co : CheckOpts}

theorem signatures_get {tag : Remote.Tag}
    (read : Remote.signatures pem registry faults tag = .ok base) :
    base.get = .ok ((layersAt registry tag).map (downloaded pem)) := by
  unfold Remote.signatures Remote.remoteImage at read
  unfold layersAt
  cases fault : faults.image tag with
  | some err =>
    simp only [fault] at read
    cases err with
    | other err => cases read
    | transport statusCode err =>
      by_cases absent : statusCode = Remote.statusNotFound
      · rw [absent] at fault
        exact absurd fault (faults.present tag err)
      · simp only [ne_eq, absent, not_false_eq_true, if_true] at read
        cases read
  | none =>
    cases held : registry.images tag with
    | none =>
      simp only [fault, held, ne_eq, not_true_eq_false, if_false, Except.ok.injEq] at read
      rw [← read]
      rfl
    | some layers =>
      simp only [fault, held, Except.ok.injEq] at read
      rw [← read]
      exact sigsGet_ofStored

/-- The signatures of a digest, as the loop gets them. -/
def signaturesOf (pem : PemLoader) (opts : List TagOption) (registry : Remote.Registry)
    (repository : Repository) (digest : Digest) : List Signature :=
  (layersAt registry (signatureTag repository digest opts)).map fun stored =>
    (downloaded pem stored).toSignature

theorem ofList_signatures
    (read : Remote.signatures pem registry faults (signatureTag repository digest opts) =
      .ok base) :
    Verify.Signatures.ofList base = .ok (signaturesOf pem opts registry repository digest) := by
  unfold Verify.Signatures.ofList
  rw [signatures_get read, signaturesOf]
  simp [Except.map, Function.comp_def]

/-- A verification of an image that is found, with a signature list that is read, is the loop over
what the tag holds. -/
theorem verifyImageSignatures_reader (looks : co.registryClientOpts.filterMap tagOption = opts)
    (trusted : (co.rootCerts.isNone && co.sigVerifier.isNone) = false)
    (named : names ref = .ok (repository, digest))
    (found : Remote.signedEntity pem registry faults repository digest opts = .ok se)
    (read : Remote.signatures pem registry faults (signatureTag repository digest opts) =
      .ok base) :
    verifyImageSignatures p (reader pem names registry faults) ref co =
      verifySignatures p (.ok (signaturesOf pem opts registry repository digest))
        digest.hash co := by
  have read' : Remote.signatures pem registry faults ((makeOptions repository opts).suffixTag
      digest.hash (makeOptions repository opts).signatureSuffix) = .ok base := read
  rw [← ofList_signatures read]
  simp only [verifyImageSignatures, trusted, Bool.false_eq_true, if_false, Verify.getSignedEntity,
    reader, Remote.readEntity, looks, named, found, read', bind, Except.bind, Except.map]

/-- A verification that succeeds has a key or roots, and has found the image and read its list. -/
theorem verified_reader {after : CheckOpts}
    {list : List Signature} {flag : Bool} (looks : co.registryClientOpts.filterMap tagOption = opts)
    (verified : verifyImageSignatures p (reader pem names registry faults) ref co =
      .ok (after, list, flag, none)) :
    (co.rootCerts.isNone && co.sigVerifier.isNone) = false ∧
      ∃ repository digest se base, names ref = .ok (repository, digest) ∧
        Remote.signedEntity pem registry faults repository digest opts = .ok se ∧
        Remote.signatures pem registry faults (signatureTag repository digest opts) = .ok base := by
  unfold verifyImageSignatures at verified
  split at verified
  · cases verified
  · next trusted =>
    refine ⟨Bool.eq_false_iff.mpr trusted, ?_⟩
    unfold Verify.getSignedEntity reader Remote.readEntity at verified
    dsimp only at verified
    rw [looks] at verified
    cases named : names ref with
    | error err =>
      simp [named, bind, Except.bind, Outcome.failed] at verified
    | ok place =>
      obtain ⟨repository, digest⟩ := place
      cases found : Remote.signedEntity pem registry faults repository digest opts with
      | error err =>
        simp [named, found, bind, Except.bind, Outcome.failed] at verified
      | ok se =>
        cases read : Remote.signatures pem registry faults
            (signatureTag repository digest opts) with
        | error err =>
          have read' : Remote.signatures pem registry faults ((makeOptions repository
            opts).suffixTag digest.hash (makeOptions repository opts).signatureSuffix) =
              .error err := read
          simp [named, found, read', bind, Except.bind, Except.map, Outcome.failed] at verified
        | ok base => exact ⟨repository, digest, se, base, rfl, found, read⟩

theorem signatures_nothing (pem : PemLoader) (registry : Remote.Registry) (tag : Remote.Tag) :
    ∃ base, Remote.signatures pem registry .nothing tag = .ok base := by
  unfold Remote.signatures Remote.remoteImage
  cases registry.images tag with
  | none => exact ⟨_, rfl⟩
  | some layers => exact ⟨_, rfl⟩

/-- **Verification persists.** If the signatures of an image verify when no command is under way,
they verify after any interleaving of commands that sign and attest, when no call fails: the loop
over the new list, unless it panics, accepts what was accepted before and possibly more. The options
of the verification name the tags as those of the commands do. -/
theorem verified_stays_verified (distinct : DistinctSuffixes opts) {service next : Service}
    (quiet : service.clients = []) (run : ServiceRun pem opts runs service next)
    (looks : co.registryClientOpts.filterMap tagOption = opts) {faults : Faults} {after : CheckOpts}
    {list : List Signature} {flag : Bool}
    (verified : verifyImageSignatures p (reader pem names service.registry faults)
      ref co = .ok (after, list, flag, none))
    (returns : Returns (verifyImageSignatures p
      (reader pem names next.registry .nothing) ref co)) :
    ∃ after' more flag', verifyImageSignatures p
      (reader pem names next.registry .nothing) ref co =
        .ok (after', list ++ more, flag', none) := by
  obtain ⟨trusted, repository, digest, se, base, named, found, read⟩ :=
    verified_reader looks verified
  obtain ⟨again, foundAgain⟩ := signedEntity_again (manifests_kept run) found
  obtain ⟨base', readAgain⟩ := signatures_nothing pem next.registry
    (signatureTag repository digest opts)
  rw [verifyImageSignatures_reader looks trusted named found read, verifySignatures_eq] at verified
  rw [verifyImageSignatures_reader looks trusted named foundAgain readAgain, verifySignatures_eq]
    at returns ⊢
  obtain ⟨added, grown, -⟩ := layersAt_extends distinct quiet run repository digest
  have split : signaturesOf pem opts next.registry repository digest =
      signaturesOf pem opts service.registry repository digest ++
        added.map fun stored => (downloaded pem stored).toSignature := by
    rw [signaturesOf, grown, List.map_append]
    rfl
  obtain ⟨⟨after', list', flag', err'⟩, ran⟩ := returns
  obtain ⟨listIs, some_passed⟩ := verifyEntries_eq_ok verified
  obtain ⟨listIs', some_passed'⟩ := verifyEntries_eq_ok ran
  rw [split, List.filter_append, ← listIs] at listIs'
  have nonempty : list' ≠ [] := by
    rw [listIs']
    exact List.append_ne_nil_of_left_ne_nil (some_passed.mp rfl) _
  rw [ran, some_passed'.mpr nonempty, listIs']
  exact ⟨after', _, flag', rfl⟩

/-- A registry whose images have a signature that the key of the sample verifies. -/
def goodRegistry : Remote.Registry :=
  { sampleRegistry with
    images := fun _ => some [⟨⟨"text/plain", ⟨"sha256", "01"⟩,
      AList.singleton sigkey "AQ=="⟩, samplePayload⟩] }

/-- The signature still verifies after one that does not is added. -/
theorem verified_stays_verified_signed : ∃ after list flag after' more flag',
    verifyImageSignatures samplePlatform (reader sampleLoader sampleNames goodRegistry .nothing)
      "app" sampleKeyOpts = .ok (after, list, flag, none) ∧
    verifyImageSignatures samplePlatform (reader sampleLoader sampleNames
      (Remote.runAll sampleLoader [] goodRegistry [sampleOperation]) .nothing) "app"
      sampleKeyOpts = .ok (after', list ++ more, flag', none) := by
  have run : ServiceRun sampleLoader [] (fun _ => True) ⟨goodRegistry, []⟩
      ⟨Remote.runAll sampleLoader [] goodRegistry [sampleOperation], []⟩ :=
    serviceRun_runAll goodRegistry (by simp)
  have verified : ∃ after list flag, verifyImageSignatures samplePlatform
      (reader sampleLoader sampleNames goodRegistry .nothing) "app" sampleKeyOpts =
        .ok (after, list, flag, none) := ⟨_, _, _, rfl⟩
  obtain ⟨after, list, flag, verified⟩ := verified
  obtain ⟨after', more, flag', again⟩ :=
    verified_stays_verified distinctSuffixes_default rfl run rfl verified ⟨_, rfl⟩
  exact ⟨after, list, flag, after', more, flag', verified, again⟩

end Cosign.Verif
