import Cosign.Verif.Bundle
import Cosign.Verif.Sample

/-!
# Binding of a bundle to its layer

A bundle that is accepted should prove that the log holds an entry for exactly this layer. The
payload is compared only when there is a certificate, and an entry with an empty signature is never
compared with the signature of the layer; these two gaps are all that is missing
(`accepted_bundle_binds_iff`).
-/
namespace Cosign.Verif

open Cosign.Go Cosign.Encoding Cosign.Oci Cosign.Verify Cosign.Spec

variable {p : Platform} {sig : Signature}

/-- The bundle of a layer proves that the log holds an entry for the layer. -/
structure BundleBinds (p : Platform) (sig : Signature) (bundle : RekorBundle) (body : String) :
    Prop where
  /-- The layer has the bundle. -/
  carried : sig.bundle = .ok (some bundle)
  text : bundle.payload.body = .str body
  /-- The signed entry timestamp verifies under the key registered for the log. -/
  signed : ∃ keys pubKey, getRekorPubs p = .ok keys ∧
    keys.lookup bundle.payload.logID = some pubKey ∧
    verifySET p bundle.payload bundle.signedEntryTimestamp pubKey.pubKey = none
  /-- The entry records the SHA-256 of the payload of the layer. -/
  payload : ∃ content, sig.payload = .ok content ∧ RecordsHash p body (payloadHash p content)
  /-- The entry records the signature of the layer, unless that is empty. -/
  signature : ∃ text, sig.base64Signature = .ok text ∧
    (text ≠ "" → RecordsSignature p body text)
  /-- The certificate of the layer, if any, covers the integrated time. -/
  covered : ∀ cert, sig.cert = .ok (some cert) → cert.Covers bundle.payload.integratedTime

/-- What the checks leave open: a layer without a certificate has the payload that its entry
records, and a layer with a signature has an entry with a signature. -/
structure BoundOtherwise (p : Platform) (sig : Signature) (body : String) : Prop where
  /-- Without a certificate, the entry records the payload. -/
  payload : sig.cert = .ok none →
    ∃ content, sig.payload = .ok content ∧ RecordsHash p body (payloadHash p content)
  /-- The entry has a signature if the layer has one. -/
  signature : ∀ text entry recorded, sig.base64Signature = .ok text → text ≠ "" →
    Reads p body entry → entry.signature = some recorded → recorded.content ≠ []

/-- **A bundle that is accepted binds the layer exactly when what the checks leave open
holds.** -/
theorem accepted_bundle_binds_iff {err : Option GoError} (exclude : KindsExclude p)
    (accepted : verifyBundle p sig = .ok (true, err)) :
    (∃ bundle body, BundleBinds p sig bundle body) ↔
      ∃ bundle body, sig.bundle = .ok (some bundle) ∧ bundle.payload.body = .str body ∧
        BoundOtherwise p sig body := by
  obtain ⟨-, bundle, body, signature, pubKey, checked, certificate⟩ :=
    verifyBundle_accepts.mp accepted
  constructor
  · rintro ⟨bundle', body', binds⟩
    refine ⟨bundle', body', binds.carried, binds.text, fun _ => binds.payload, ?_⟩
    intro text entry recorded base64 written reads found unsigned
    obtain ⟨text', base64', records⟩ := binds.signature
    cases base64.symm.trans base64'
    obtain ⟨entry', recorded', reads', found', same⟩ := records written
    cases reads.unique exclude reads'
    cases found.symm.trans found'
    exact written (same ▸ Base64.stdEncode_eq_empty.mpr unsigned)
  · rintro ⟨bundle', body', carried, text, otherwise⟩
    cases checked.carried.symm.trans carried
    cases checked.text.symm.trans text
    obtain ⟨keys, trusted, found⟩ := checked.registered
    have bound : ∃ content, sig.payload = .ok content ∧
        RecordsHash p body (payloadHash p content) := by
      obtain uncertified | ⟨cert, content, entry, certChecked, recorded⟩ := certificate
      · exact otherwise.payload uncertified
      · exact ⟨content, certChecked.payload, entry, consulted_reads certChecked.read, recorded⟩
    refine ⟨bundle, body, checked.carried, checked.text,
      ⟨keys, pubKey, trusted, found, checked.signed⟩, bound,
      ⟨signature, checked.base64, ?_⟩, ?_⟩
    · intro written
      obtain blank | ⟨entry, recorded, read, found, unsigned | same⟩ := checked.agrees
      · exact absurd blank written
      · exact absurd unsigned (otherwise.signature signature entry recorded checked.base64
          written (consulted_reads read) found)
      · exact ⟨entry, recorded, consulted_reads read, found, same⟩
    · intro cert certified
      obtain uncertified | ⟨cert', content, entry, certChecked, -⟩ := certificate
      · cases certified.symm.trans uncertified
      · cases certified.symm.trans certChecked.certified
        exact certChecked.valid.covers

/-- The bundle of a sample layer around a hashedrekord entry is checked up to the hash that the
entry records. -/
theorem sampleLayer_checked (value : String) (cert : Option Certificate) :
    ∃ body pubKey entry,
      BundleChecked samplePlatform (sampleLayer "AQ==" cert (some (sampleHashedrekordBody value)))
        (sampleBundle (sampleHashedrekordBody value)) body "AQ==" pubKey ∧
      consulted samplePlatform false body = .ok entry ∧ entry.hash = some ("sha256", value) := by
  obtain ⟨body, text⟩ : ∃ body, sampleHashedrekordBody value = .str body := ⟨_, rfl⟩
  have reads : Reads samplePlatform body _ := reads_sampleHashedrekordBody ⟨rfl, rfl⟩ text
  have read := consulted_of_reads samplePlatform_excludes reads rfl
  refine ⟨body, _, _, ⟨rfl, text, rfl, .inr ⟨_, _, read, rfl, .inr rfl⟩, ⟨_, rfl, rfl⟩, rfl⟩,
    read, rfl⟩

/-- An attestation without a certificate, with the bundle of another attestation. -/
def strangersBundle : Signature := sampleLayer "" none (some (sampleIntotoBody "00"))

/-- The entry of the bundle records a hash that is not the one of the payload. -/
theorem strangersBundle_records {body : String}
    (text : sampleIntotoBody "00" = .str body) :
    ¬RecordsHash samplePlatform body (payloadHash samplePlatform samplePayload) := by
  have read : (consulted samplePlatform true body).map LogEntry.hash =
      .ok (some ("sha256", "00")) := by
    cases text
    decide +kernel
  rintro ⟨entry, reads, recorded⟩
  cases found : consulted samplePlatform true body with
  | error err => simp [found, Except.map] at read
  | ok entry' =>
    simp only [found, Except.map, Except.ok.injEq] at read
    cases reads.unique samplePlatform_excludes (consulted_reads found)
    rw [read] at recorded
    revert recorded
    decide +kernel

/-- The bundle of another attestation is accepted for a layer without a certificate. -/
theorem strangers_bundle_accepted :
    verifyBundle samplePlatform strangersBundle = .ok (true, none) ∧
      ¬∃ bundle body, BundleBinds samplePlatform strangersBundle bundle body := by
  refine ⟨by decide +kernel, ?_⟩
  rintro ⟨bundle, body, binds⟩
  obtain ⟨content, payload, records⟩ := binds.payload
  cases binds.carried
  cases payload
  exact strangersBundle_records binds.text records

/-- A layer without a certificate, with the bundle of its own payload. -/
def ownBundle : Signature :=
  sampleLayer "AQ==" none (some (sampleHashedrekordBody (payloadHash samplePlatform samplePayload)))

/-- The condition holds of a layer with its own bundle, which is bound, and decides the
stranger's. -/
theorem accepted_bundle_binds_iff_own :
    (verifyBundle samplePlatform ownBundle = .ok (true, none) ∧
      ∃ bundle body, BundleBinds samplePlatform ownBundle bundle body) ∧
    verifyBundle samplePlatform strangersBundle = .ok (true, none) ∧
      ((∃ bundle body, BundleBinds samplePlatform strangersBundle bundle body) ↔
        ∃ bundle body, strangersBundle.bundle = .ok (some bundle) ∧
          bundle.payload.body = .str body ∧
          BoundOtherwise samplePlatform strangersBundle body) := by
  have accepted : verifyBundle samplePlatform strangersBundle = .ok (true, none) := by
    decide +kernel
  obtain ⟨body, pubKey, entry, checked, read, recorded⟩ :=
    sampleLayer_checked (payloadHash samplePlatform samplePayload) none
  have own : verifyBundle samplePlatform ownBundle = .ok (true, none) :=
    verifyBundle_accepts.mpr ⟨rfl, _, _, _, _, checked, .inl rfl⟩
  refine ⟨⟨own, (accepted_bundle_binds_iff samplePlatform_excludes own).mpr
    ⟨_, body, checked.carried, checked.text, ?_, ?_⟩⟩, accepted,
    accepted_bundle_binds_iff samplePlatform_excludes accepted⟩
  · exact fun _ => ⟨_, rfl, entry, consulted_reads read, recorded⟩
  · intro text entry' signature _ _ reads found
    have sample : Reads samplePlatform body _ :=
      reads_sampleHashedrekordBody ⟨rfl, rfl⟩ checked.text
    cases reads.unique samplePlatform_excludes sample
    cases found
    decide

end Cosign.Verif
