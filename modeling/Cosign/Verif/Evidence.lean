import Cosign.Verif.Binding
import Cosign.Verif.Isolation
import Cosign.Verif.Tlog

/-!
# Log evidence of accepted entries

An entry that is accepted is meant to be in the transparency log. Without a log to search, an entry
for which `VerifyBundle` reports neither success nor an error is accepted: one without a bundle, or
with one that records another payload (`bundle_never_ignored_iff`, `keyless_evidence_iff`). The
search trusts the server's answer more than it should (`online_evidence_iff`).
-/
namespace Cosign.Verif

open Cosign.Go Cosign.Encoding Cosign.Oci Cosign.Verify Cosign.Spec

variable {p : Platform} {sig : Signature} {h : Hash} {co : CheckOpts}

/-- Without a log to search, an accepted entry that carries a bundle has it verified, unless
the bundle records another payload. -/
theorem Evidenced.bundle_verified {flag : Bool} (evidenced : Evidenced p sig co flag)
    (offline : co.rekorClient = none) {bundle : RekorBundle}
    (carried : sig.bundle = .ok (some bundle)) (matching : ¬BundleMismatch p sig) :
    verifyBundle p sig = .ok (true, none) := by
  cases evidenced with
  | bundle verified => exact verified
  | log configured outcome searched => rw [offline] at configured; cases configured
  | nothing configured outcome =>
    obtain absent | mismatch := verifyBundle_silent.mp outcome
    · rw [carried] at absent
      cases absent
    · exact absurd mismatch matching

/-- **A bundle is never treated as absent exactly when it does not record another payload.**
Then false without an error means that there is no bundle, and an entry that carries a bundle
is accepted offline only if the bundle was verified. -/
theorem bundle_never_ignored_iff :
    ((verifyBundle p sig = .ok (false, none) ↔ sig.bundle = .ok none) ∧
      (∀ h co bundle, co.rekorClient = none → sig.bundle = .ok (some bundle) →
        Accepts (verifyImageSignature p sig h co) → verifyBundle p sig = .ok (true, none)) ∧
      (∀ h co flag bundle, co.rekorClient = none → sig.bundle = .ok (some bundle) →
        Accepts (verifyAttestation p sig h co flag) → verifyBundle p sig = .ok (true, none))) ↔
      ¬BundleMismatch p sig := by
  constructor
  · rintro ⟨silent, -, -⟩ mismatch
    have ignored : verifyBundle p sig = .ok (false, none) :=
      verifyBundle_silent.mpr (.inr mismatch)
    have absent : sig.bundle = .ok none := silent.mp ignored
    obtain ⟨bundle, carried⟩ := mismatch.carried
    rw [carried] at absent
    cases absent
  · intro matching
    refine ⟨?_, ?_, ?_⟩
    · rw [verifyBundle_silent, or_iff_left matching]
    · intro h co bundle offline carried accepted
      rw [verifyImageSignature_eq, accepts_entryCheck] at accepted
      obtain ⟨_, _, _, _, _, evidenced⟩ := accepted
      exact evidenced.bundle_verified offline carried matching
    · intro h co flag bundle offline carried accepted
      rw [accepts_verifyAttestation, accepts_entryCheck] at accepted
      obtain ⟨_, _, _, _, _, evidenced⟩ := accepted
      exact evidenced.bundle_verified offline carried matching

/-- A layer with the certificate of the sample signer and the bundle of another payload. -/
def mismatchedLayer : Signature :=
  sampleLayer "AQ==" (some sampleCert) (some (sampleHashedrekordBody "00"))

/-- The bundle of another payload is treated as no bundle: `VerifyBundle` returns false and no
error, and the layer is accepted with neither a bundle verified nor a log searched. -/
theorem mismatched_bundle_ignored :
    mismatchedLayer.bundle = .ok (some (sampleBundle (sampleHashedrekordBody "00"))) ∧
      sampleRootOpts.rekorClient = none ∧
      verifyBundle samplePlatform mismatchedLayer = .ok (false, none) ∧
      Accepts (verifyImageSignature samplePlatform mismatchedLayer sampleImage
        sampleRootOpts) := by
  obtain ⟨body, pubKey, entry, checked, read, recorded⟩ :=
    sampleLayer_checked "00" (some sampleCert)
  have timely : sampleCert.ValidAt (Time.unix 1650000000) := ⟨by decide, by decide⟩
  have certChecked : CertChecked samplePlatform mismatchedLayer
      (sampleBundle (sampleHashedrekordBody "00")) body "AQ==" sampleCert samplePayload entry :=
    ⟨rfl, timely, rfl, read⟩
  have ignored : verifyBundle samplePlatform mismatchedLayer = .ok (false, none) :=
    verifyBundle_silent.mpr (.inr ⟨_, body, "AQ==", pubKey, sampleCert, samplePayload, entry, _,
      checked, certChecked, recorded, by decide⟩)
  refine ⟨rfl, rfl, ignored, ?_⟩
  rw [verifyImageSignature_eq]
  apply accepts_entryCheck.mpr
  exact ⟨sampleVerifier, false, .inr ⟨rfl, sampleCert, [], rfl, rfl, rfl⟩, rfl, rfl,
    .nothing rfl ignored⟩

/-- The log evidence that a keyless signature should have: the certificate that verified it
covers the integrated time of its verified bundle, or of a log entry that was verified. -/
def KeylessEvidence (p : Platform) (co : CheckOpts) (sig : Signature) : Prop :=
  ∃ cert, sig.cert = .ok (some cert) ∧
    ((∃ bundle, sig.bundle = .ok (some bundle) ∧ verifyBundle p sig = .ok (true, none) ∧
        cert.Covers bundle.payload.integratedTime) ∨
      ∃ client e integratedTime, co.rekorClient = some client ∧
        findSignature p client sig (p.marshalCertificateToPEM (some cert)) = .ok (.ok e) ∧
        verifyTLogEntry p client e = .ok none ∧ e.integratedTime = some integratedTime ∧
        cert.Covers integratedTime)

theorem keylessEvidence_of_bundle {cert : Certificate} (certified : sig.cert = .ok (some cert))
    (verified : verifyBundle p sig = .ok (true, none)) : KeylessEvidence p co sig := by
  obtain ⟨-, bundle, body, signature, pubKey, checked, uncertified |
    ⟨cert', content, entry, certChecked, -⟩⟩ := verifyBundle_accepts.mp verified
  · rw [certified] at uncertified
    cases uncertified
  · exact ⟨cert', certChecked.certified,
      .inl ⟨bundle, checked.carried, verified, certChecked.valid.covers⟩⟩

/-- A log entry that passed the search by certificate is evidence. -/
theorem keylessEvidence_of_log {client : RekorClient} (configured : co.rekorClient = some client)
    (keyless : co.sigVerifier = none) (searched : tlogValidate p co client sig = .ok none) :
    KeylessEvidence p co sig := by
  simp only [tlogValidate, keyless] at searched
  obtain ⟨cert, e, integratedTime, certified, found, verified, time, valid⟩ :=
    tlogValidateCertificate_eq_none.mp searched
  exact ⟨cert, certified, .inr ⟨client, e, integratedTime, configured, found, verified, time,
    valid.covers⟩⟩

/-- A keyless signature that is returned has a certificate and whatever evidence its own check
found. -/
theorem keyless_returned {sigs : Except GoError (List Signature)} {after : CheckOpts}
    {list : List Signature} {flag : Bool} {err : Option GoError}
    (keyless : co.sigVerifier = none)
    (run : verifySignatures p sigs h co = .ok (after, list, flag, err)) (member : sig ∈ list) :
    ∃ cert flag, sig.cert = .ok (some cert) ∧ Evidenced p sig co flag := by
  cases sigs with
  | error failure =>
    cases run
    cases member
  | ok sl =>
    rw [(verifySignatures_list run).1, List.mem_filter] at member
    have accepted : Accepts (verifyImageSignature p sig h co) := of_decide_eq_true member.2
    obtain ⟨verifier, flag, verifies, -, -, evidenced⟩ := accepts_entryCheck.mp accepted
    obtain given | ⟨-, cert, chain, certified, -⟩ := verifies
    · rw [keyless] at given
      cases given
    · exact ⟨cert, flag, certified, evidenced⟩

theorem not_mismatch_of_verified (verified : verifyBundle p sig = .ok (true, none)) :
    ¬BundleMismatch p sig := by
  intro mismatch
  have silent : verifyBundle p sig = .ok (false, none) := verifyBundle_silent.mpr (.inr mismatch)
  rw [verified] at silent
  cases silent

/-- **A keyless signature that is returned has log evidence within the validity of its certificate
exactly when there is a log to search, or the signature carries a bundle that does not record
another payload.** -/
theorem keyless_evidence_iff {sigs : Except GoError (List Signature)} {after : CheckOpts}
    {list : List Signature} {flag : Bool} {err : Option GoError}
    (keyless : co.sigVerifier = none)
    (run : verifySignatures p sigs h co = .ok (after, list, flag, err)) :
    ∀ sig ∈ list, KeylessEvidence p co sig ↔
      co.rekorClient ≠ none ∨
        (∃ bundle, sig.bundle = .ok (some bundle)) ∧ ¬BundleMismatch p sig := by
  intro sig member
  obtain ⟨cert, flag, certified, evidenced⟩ := keyless_returned keyless run member
  cases evidenced with
  | bundle verified =>
    have evidence : KeylessEvidence p co sig := keylessEvidence_of_bundle certified verified
    obtain ⟨-, bundle, body, signature, pubKey, checked, -⟩ := verifyBundle_accepts.mp verified
    exact iff_of_true evidence
      (.inr ⟨⟨bundle, checked.carried⟩, not_mismatch_of_verified verified⟩)
  | log configured outcome searched =>
    have evidence : KeylessEvidence p co sig :=
      keylessEvidence_of_log configured keyless searched
    refine iff_of_true evidence (.inl ?_)
    simp [configured]
  | nothing offline outcome =>
    refine iff_of_false ?_ ?_
    · rintro ⟨cert, -, ⟨bundle, -, verified, -⟩ | ⟨client, _, _, configured, -⟩⟩
      · rw [outcome] at verified
        cases verified
      · rw [offline] at configured
        cases configured
    · rintro (configured | ⟨⟨bundle, carried⟩, matching⟩)
      · exact configured offline
      · obtain absent | mismatch := verifyBundle_silent.mp outcome
        · rw [carried] at absent
          cases absent
        · exact matching mismatch

/-- A keyless layer without a bundle. -/
def unloggedLayer : Signature := sampleLayer "AQ==" (some sampleCert) none

theorem unloggedLayer_run :
    verifySignatures samplePlatform (.ok [unloggedLayer]) sampleImage sampleRootOpts =
      .ok (sampleRootOpts, [unloggedLayer], false, none) := rfl

/-- A keyless signature without any log evidence is returned. -/
theorem unlogged_signature_returned :
    verifySignatures samplePlatform (.ok [unloggedLayer]) sampleImage sampleRootOpts =
        .ok (sampleRootOpts, [unloggedLayer], false, none) ∧
      ¬KeylessEvidence samplePlatform sampleRootOpts unloggedLayer := by
  refine ⟨unloggedLayer_run, ?_⟩
  rintro ⟨cert, -, ⟨bundle, carried, -⟩ | ⟨client, _, _, configured, -⟩⟩
  · cases carried
  · cases configured

/-- A keyless layer with the bundle of its own payload. -/
def loggedLayer : Signature :=
  sampleLayer "AQ==" (some sampleCert)
    (some (sampleHashedrekordBody (payloadHash samplePlatform samplePayload)))

theorem loggedLayer_verified : verifyBundle samplePlatform loggedLayer = .ok (true, none) := by
  obtain ⟨body, pubKey, entry, checked, read, recorded⟩ :=
    sampleLayer_checked (payloadHash samplePlatform samplePayload) (some sampleCert)
  have timely : sampleCert.ValidAt (Time.unix 1650000000) := ⟨by decide, by decide⟩
  exact verifyBundle_accepts.mpr ⟨rfl, _, body, "AQ==", pubKey, checked,
    .inr ⟨sampleCert, samplePayload, entry, ⟨rfl, timely, rfl, read⟩, recorded⟩⟩

theorem loggedLayer_run : ∃ after flag,
    verifySignatures samplePlatform (.ok [loggedLayer]) sampleImage sampleRootOpts =
      .ok (after, [loggedLayer], flag, none) := by
  have passes : passesAlone samplePlatform "signature" verifyOCISignature sampleImage
      sampleRootOpts loggedLayer = true := by
    apply decide_eq_true
    apply accepts_entryCheck.mpr
    exact ⟨sampleVerifier, true, .inr ⟨rfl, sampleCert, [], rfl, rfl, rfl⟩, rfl, rfl,
      .bundle loggedLayer_verified⟩
  rw [verifySignatures_eq]
  exact verifyEntries_all (List.cons_ne_nil _ _) (List.forall_mem_singleton.mpr passes)

/-- The condition holds of the layer with its own bundle, which is evidence, and decides the one
without a bundle. -/
theorem keyless_evidence_iff_logged :
    KeylessEvidence samplePlatform sampleRootOpts loggedLayer ∧
      (KeylessEvidence samplePlatform sampleRootOpts unloggedLayer ↔
        sampleRootOpts.rekorClient ≠ none ∨
          (∃ bundle, unloggedLayer.bundle = .ok (some bundle)) ∧
            ¬BundleMismatch samplePlatform unloggedLayer) := by
  obtain ⟨after, flag, run⟩ := loggedLayer_run
  refine ⟨?_, keyless_evidence_iff rfl unloggedLayer_run unloggedLayer List.mem_cons_self⟩
  apply (keyless_evidence_iff rfl run loggedLayer List.mem_cons_self).mpr
  exact .inr ⟨⟨_, rfl⟩, not_mismatch_of_verified loggedLayer_verified⟩

/-- The key or certificate in PEM under which an entry is searched. -/
def searchKey (p : Platform) (co : CheckOpts) (sig : Signature) : Except GoError Bytes :=
  match co.sigVerifier with
  | some sigVerifier => sigVerifier.publicKey co.pkOpts >>= p.marshalPublicKeyToPEM
  | none => sig.cert >>= p.marshalCertificateToPEM

/-- An entry passes the search exactly when the server answers with one entry whose leaf hash
is its UUID and, on the search by certificate only, which verifies at a time that the
certificate covers. -/
theorem tlogValidate_eq_none {client : RekorClient} :
    tlogValidate p co client sig = .ok none ↔
      ∃ pem proposed uuid e, searchKey p co sig = .ok pem ∧
        Answers p client sig pem proposed uuid e ∧ LeafIs p uuid e ∧
        (co.sigVerifier = none → IncludedInLog p e ∧ TimestampSigned p client e ∧
          ∃ cert integratedTime, sig.cert = .ok (some cert) ∧
            e.integratedTime = some integratedTime ∧
            cert.ValidAt (Time.unix integratedTime)) := by
  unfold tlogValidate searchKey
  cases given : co.sigVerifier with
  | some sigVerifier =>
    cases key : sigVerifier.publicKey co.pkOpts with
    | error err => simp [key, bind, Except.bind]
    | ok pub =>
      simp only [key, tlogValidatePublicKey_eq_none, findSignature_eq_ok, bind, Except.bind,
        reduceCtorEq, false_implies, and_true]
      constructor
      · rintro ⟨e, pem, proposed, uuid, found⟩
        exact ⟨pem, proposed, uuid, e, found⟩
      · rintro ⟨pem, proposed, uuid, e, found⟩
        exact ⟨e, pem, proposed, uuid, found⟩
  | none =>
    simp only [tlogValidateCertificate_eq_none, findSignature_eq_ok, verifyTLogEntry_eq_none,
      forall_const]
    constructor
    · rintro ⟨cert, e, time, certified, ⟨pem, proposed, uuid, key, answers, leaf⟩,
        ⟨included, signed⟩, dated, valid⟩
      refine ⟨pem, proposed, uuid, e, ?_, answers, leaf, included, signed, cert, time, certified,
        dated, valid⟩
      simpa only [certified, bind, Except.bind] using key
    · rintro ⟨pem, proposed, uuid, e, key, answers, leaf, included, signed, cert, time,
        certified, dated, valid⟩
      simp only [certified, bind, Except.bind] at key
      exact ⟨cert, e, time, certified, ⟨pem, proposed, uuid, key, answers, leaf⟩,
        ⟨included, signed⟩, dated, valid⟩

/-- The log evidence that an entry accepted online should have: an entry of the log whose leaf hash
is its UUID, whose body is the entry searched for, and whose inclusion proof and signed entry
timestamp verify. -/
def OnlineEvidence (p : Platform) (co : CheckOpts) (client : RekorClient) (sig : Signature) :
    Prop :=
  ∃ pem proposed uuid e body, searchKey p co sig = .ok pem ∧
    Answers p client sig pem proposed uuid e ∧ LeafIs p uuid e ∧ e.body = .str body ∧
    RecordsProposed p body proposed ∧ IncludedInLog p e ∧ TimestampSigned p client e

/-- The server answers the search with the entry that was searched for and, when the search is
by key, with one whose inclusion proof and signed entry timestamp verify. -/
def ServerHonest (p : Platform) (co : CheckOpts) (client : RekorClient) (sig : Signature) :
    Prop :=
  ∀ pem proposed uuid e body, searchKey p co sig = .ok pem →
    Answers p client sig pem proposed uuid e → e.body = .str body →
    RecordsProposed p body proposed ∧
      (co.sigVerifier ≠ none → IncludedInLog p e ∧ TimestampSigned p client e)

/-- **An entry accepted online has the evidence exactly when the server is honest about what is
not checked**: the body on both paths, and proof and timestamp on the path by key. -/
theorem online_evidence_iff {client : RekorClient} (configured : co.rekorClient = some client)
    (unverified : verifyBundle p sig ≠ .ok (true, none))
    (accepted : Accepts (verifyImageSignature p sig h co)) :
    OnlineEvidence p co client sig ↔ ServerHonest p co client sig := by
  obtain ⟨verifier, flag, -, -, -, evidenced⟩ := accepts_entryCheck.mp accepted
  obtain ⟨pem, proposed, uuid, e, key, answers, leaf, checked⟩ :
      ∃ pem proposed uuid e, searchKey p co sig = .ok pem ∧
        Answers p client sig pem proposed uuid e ∧ LeafIs p uuid e ∧
        (co.sigVerifier = none → IncludedInLog p e ∧ TimestampSigned p client e) := by
    cases evidenced with
    | bundle verified => exact absurd verified unverified
    | nothing offline outcome =>
      rw [offline] at configured
      cases configured
    | log configured' outcome searched =>
      cases configured.symm.trans configured'
      obtain ⟨pem, proposed, uuid, e, key, answers, leaf, checked⟩ :=
        tlogValidate_eq_none.mp searched
      exact ⟨pem, proposed, uuid, e, key, answers, leaf, fun keyless =>
        ⟨(checked keyless).1, (checked keyless).2.1⟩⟩
  constructor
  · rintro ⟨pem', proposed', uuid', e', body', key', answers', -, text', records, included,
      signed⟩ pem'' proposed'' uuid'' e'' body'' key'' answers'' text''
    cases key'.symm.trans key''
    obtain ⟨rfl, rfl, rfl⟩ := answers'.unique answers''
    cases text'.symm.trans text''
    exact ⟨records, fun _ => ⟨included, signed⟩⟩
  · intro honest
    obtain ⟨body, bytes, text, decoded, same⟩ := leaf
    obtain ⟨records, byKey⟩ := honest pem proposed uuid e body key answers text
    have verified : IncludedInLog p e ∧ TimestampSigned p client e := by
      by_cases keyless : co.sigVerifier = none
      · exact checked keyless
      · exact byKey keyless
    exact ⟨pem, proposed, uuid, e, body, key, answers, ⟨body, bytes, text, decoded, same⟩, text,
      records, verified⟩

/-- A server that answers every search with an empty entry without any proof. -/
def emptyEntryClient : RekorClient where
  searchLogQuery _ := .ok [AList.singleton
    "6e340b9cffb37a989ca544e6bb780a2c78901d3fb33738768511a30617afa01d"
    ⟨.str "", none, none, none, none⟩]
  getPublicKey := .error ⟨"not found"⟩

/-- Options with the key of the sample signer and that server. -/
def emptyEntryOpts : CheckOpts where
  sigVerifier := some sampleVerifier
  rekorClient := some emptyEntryClient

/-- A layer without certificate and bundle. -/
def plainLayer : Signature := sampleLayer "AQ==" none none

theorem plainLayer_accepted :
    Accepts (verifyImageSignature samplePlatform plainLayer sampleImage emptyEntryOpts) := by
  decide +kernel

/-- The empty entry of the server is accepted as evidence for a signature by key. -/
theorem empty_entry_accepted :
    emptyEntryOpts.rekorClient = some emptyEntryClient ∧
      verifyBundle samplePlatform plainLayer = .ok (false, none) ∧
      Accepts (verifyImageSignature samplePlatform plainLayer sampleImage emptyEntryOpts) ∧
      ¬OnlineEvidence samplePlatform emptyEntryOpts emptyEntryClient plainLayer := by
  refine ⟨rfl, rfl, plainLayer_accepted, ?_⟩
  rintro ⟨pem, proposed, uuid, e, body, -, ⟨-, logEntry, answered, sole⟩, -, -, -,
    ⟨verification, _, _, _, _, _, _, verifiable, -⟩, -⟩
  cases answered
  cases sole
  cases verifiable

/-- The entry of the sample layer in the log, with its proofs. -/
def provenEntry : LogEntryAnon where
  body := sampleHashedrekordBody (payloadHash samplePlatform samplePayload)
  integratedTime := some 1650000000
  logIndex := some 0
  logID := some "e52d9c508c502347344d8c07ad91cbd6068afc75ff6292f062a09ca381c89e71"
  verification := some ⟨some ⟨[], some 0, some "", some 1⟩, [1]⟩

/-- A server that answers every search with that entry. -/
def provenEntryClient : RekorClient where
  searchLogQuery _ := .ok [AList.singleton "" provenEntry]
  getPublicKey := .error ⟨"not found"⟩

/-- Options with the key of the sample signer and that server. -/
def provenEntryOpts : CheckOpts where
  sigVerifier := some sampleVerifier
  rekorClient := some provenEntryClient

theorem provenEntry_accepted :
    Accepts (verifyImageSignature samplePlatform plainLayer sampleImage provenEntryOpts) := by
  have searched : tlogValidate samplePlatform provenEntryOpts provenEntryClient plainLayer =
      .ok none :=
    tlogValidate_eq_none.mpr ⟨_, _, "", provenEntry, rfl,
      ⟨⟨_, _, rfl, rfl, rfl⟩, _, rfl, rfl⟩, ⟨_, _, rfl, Base64.stdDecode_stdEncode _, rfl⟩, nofun⟩
  rw [verifyImageSignature_eq]
  apply accepts_entryCheck.mpr
  exact ⟨sampleVerifier, false, .inl rfl, rfl, rfl, .log rfl rfl searched⟩

/-- The server answers with the entry that was searched for, and its proofs verify. -/
theorem provenEntry_honest :
    ServerHonest samplePlatform provenEntryOpts provenEntryClient plainLayer := by
  rintro pem proposed uuid e body key
    ⟨⟨b64sig, payload, base64, read, built⟩, logEntry, answered, sole⟩ text
  cases key
  cases base64
  cases read
  cases answered
  cases sole
  cases built
  refine ⟨⟨_, reads_sampleHashedrekordBody ⟨rfl, rfl⟩ text, rfl, rfl⟩, fun _ => ⟨?_, ?_⟩⟩
  · exact ⟨_, _, _, _, _, _, _, rfl, rfl, rfl, rfl, rfl, rfl, Base64.stdDecode_stdEncode _, rfl⟩
  · exact ⟨_, _, _, _, _, _, rfl, rfl, rfl, rfl, rfl, rfl, rfl⟩

/-- The condition holds of the honest server, whose entry is evidence, and decides the other. -/
theorem online_evidence_iff_proven :
    OnlineEvidence samplePlatform provenEntryOpts provenEntryClient plainLayer ∧
      (OnlineEvidence samplePlatform emptyEntryOpts emptyEntryClient plainLayer ↔
        ServerHonest samplePlatform emptyEntryOpts emptyEntryClient plainLayer) :=
  ⟨(online_evidence_iff rfl (by decide) provenEntry_accepted).mpr provenEntry_honest,
    online_evidence_iff rfl (by decide) plainLayer_accepted⟩

end Cosign.Verif
