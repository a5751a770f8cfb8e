import Cosign.Encoding.Base64
import Cosign.Encoding.Decimal
import Cosign.Verif.Binding
import Cosign.Verif.Blob
import Cosign.Verif.Signing

/-!
# Log evidence of verify-blob

In experimental mode a run of verify-blob should end with a verified entry of the log, but an entry
that does not verify is not an error (`blob_evidence_iff`). Evidence from a bundle file is accepted
on the log's signature alone: the entry is compared neither with the signature nor with the blob nor
with the key (`offline_binds_iff`).
-/
namespace Cosign.Verif

open Cosign.Go Cosign.Encoding Cosign.Oci Cosign.Verify Cosign.Spec Cosign.Cli

variable {env : BlobEnv} {args : VerifyBlobArgs}

/-- Some entry of the log that the run considers passes `VerifyTLogEntry`, and the validity
period of the certificate that is used, if any, covers its integrated time. -/
def LogEvidence (env : BlobEnv) (args : VerifyBlobArgs) : Prop :=
  ∃ client e cert, Considered env args client e cert ∧
    verifyTLogEntry env.platform client.toRekorClient e = .ok none ∧
    ∀ used, cert = some used → ∃ integratedTime, e.integratedTime = some integratedTime ∧
      used.Covers integratedTime

/-- Some entry that the run considers fails `VerifyTLogEntry`. -/
def FailingEntry (env : BlobEnv) (args : VerifyBlobArgs) : Prop :=
  ∃ client e cert err, Considered env args client e cert ∧
    verifyTLogEntry env.platform client.toRekorClient e = .ok (some err)

/-- An entry that verifies within the validity period of the certificate is evidence. -/
theorem logEvidence_of_timely {client : LogClient} {e : LogEntryAnon}
    {cert : Option Certificate} (considered : Considered env args client e cert)
    (verified : verifyTLogEntry env.platform client.toRekorClient e = .ok none)
    (timely : Timely e cert) : LogEvidence env args := by
  refine ⟨client, e, cert, considered, verified, ?_⟩
  intro used certified
  obtain ⟨integratedTime, time, valid⟩ := timely used certified
  exact ⟨integratedTime, time, valid.covers⟩

/-- **A run in experimental mode succeeds only with log evidence exactly when no entry fails
`VerifyTLogEntry`, unless another one is evidence.** The run makes no difference between an
entry that fails and one that passes. -/
theorem blob_evidence_iff (experimental : enableExperimental env.platform = true)
    (offline : ∀ verifier cert, selectVerifier env args = .ok (.ok (some (verifier, cert))) →
      verifiedOffline env args.ko cert ≠ .ok true)
    (returns : Returns (verifyBlobCmd env args)) :
    (verifyBlobCmd env args = .ok none → LogEvidence env args) ↔
      (FailingEntry env args → LogEvidence env args) := by
  have succeeds := verifyBlobCmd_succeeds experimental offline returns
  constructor
  · rintro sound ⟨client, e, cert, err, considered, fails⟩
    apply sound
    rw [succeeds]
    exact ⟨client, e, cert, considered, verifyEntryAtHand_eq_none.mpr (.inl ⟨err, fails⟩)⟩
  · intro otherwise run
    obtain ⟨client, e, cert, considered, passes⟩ := succeeds.mp run
    obtain ⟨err, fails⟩ | ⟨verified, timely⟩ := verifyEntryAtHand_eq_none.mp passes
    · exact otherwise ⟨client, e, cert, err, considered, fails⟩
    · exact logEvidence_of_timely considered verified timely

/-- A server that answers every search with an empty entry without any proof. -/
def emptyEntryServer : LogClient where
  searchLogQuery _ := .ok [AList.singleton
    "6e340b9cffb37a989ca544e6bb780a2c78901d3fb33738768511a30617afa01d"
    ⟨.str "", none, none, none, none⟩]
  getPublicKey := .error ⟨"not found"⟩
  searchIndex _ := .ok []
  getLogEntryByUUID _ _ := .error ⟨"not found"⟩
  createLogEntry _ := .error (.other ⟨"method not allowed"⟩)

/-- An environment with one key file, one blob and that server. -/
def sampleBlobEnv (experimental : String) (bundle : Bytes) : BlobEnv where
  platform := { samplePlatform with
    getenv := fun name => if name = experimentalEnv then experimental else ""
    readFile := fun _ => .ok bundle }
  newRekorClient _ _ := .ok emptyEntryServer
  fulcioRoots := CertPool.empty
  fulcioIntermediates := CertPool.empty
  publicKeyFromKeyRef _ := .ok sampleVerifier
  getKeyWithSlot _ := .error ⟨"no key"⟩
  loadFileOrURL path :=
    if path = "blob" then .ok samplePayload
    else if path = "cert.pem" then .ok sampleCert.raw
    else .error ⟨"no such file or directory"⟩
  isNotExist _ := true
  stdin := .error ⟨"closed"⟩
  unmarshalCertificatesFromPEM pem :=
    if pem = sampleCert.raw then .ok [sampleCert] else .error ⟨"error during PEM decoding"⟩
  loadECDSAVerifier _ := .ok sampleVerifier
  wrapVerifier verifier := verifier
  newEntry _ := .ok .other

/-- Verification of the blob with the key file. -/
def sampleKeyArgs : VerifyBlobArgs where
  ko := { keyRef := "cosign.pub" }
  sigRef := "AQ=="
  blobRef := "blob"

theorem sampleBlobEnv_experimental :
    enableExperimental (sampleBlobEnv "1" []).platform = true := by
  decide +kernel

theorem sampleKeyArgs_offline (cert : Option Certificate) :
    verifiedOffline (sampleBlobEnv "1" []) sampleKeyArgs.ko cert ≠ .ok true := by
  simp [verifiedOffline, sampleKeyArgs]

theorem sampleKeyArgs_run : verifyBlobCmd (sampleBlobEnv "1" []) sampleKeyArgs = .ok none := by
  decide +kernel

/-- The run considers the one entry that the server answers with. -/
theorem sampleKeyArgs_considered {server client : LogClient} {uuid : String}
    {entry e : LogEntryAnon} {cert : Option Certificate}
    (answers : ∀ query, server.searchLogQuery query = .ok [AList.singleton uuid entry])
    (considered : Considered
      { sampleBlobEnv "1" [] with newRekorClient := fun _ _ => .ok server }
      sampleKeyArgs client e cert) :
    client = server ∧ e = entry := by
  cases considered with
  | key given selects verified made found =>
    cases made
    unfold entryAtHand at found
    dsimp only at found
    split at found
    · cases found
    · obtain ⟨proposed, logEntry, uuid, -, answered, sole, -⟩ := findTlogEntry_eq_ok.mp found
      cases (answers _).symm.trans answered
      cases sole
      exact ⟨rfl, rfl⟩
  | log given selects made searched listed candidate made' => cases selects

/-- A run in experimental mode succeeds with an entry that has neither an inclusion proof nor a
signed entry timestamp. -/
theorem unproven_entry_accepted :
    enableExperimental (sampleBlobEnv "1" []).platform = true ∧
      verifyBlobCmd (sampleBlobEnv "1" []) sampleKeyArgs = .ok none ∧
      ¬LogEvidence (sampleBlobEnv "1" []) sampleKeyArgs := by
  refine ⟨sampleBlobEnv_experimental, sampleKeyArgs_run, ?_⟩
  rintro ⟨client, e, cert, considered, verified, -⟩
  obtain ⟨-, rfl⟩ := @sampleKeyArgs_considered emptyEntryServer _ _ _ _ _ (fun _ => rfl) considered
  obtain ⟨⟨verification, _, _, _, _, _, _, proven, -⟩, -⟩ := verifyTLogEntry_eq_none.mp verified
  cases proven

/-- The empty entry with an inclusion proof and a signed entry timestamp. -/
def provenEmptyEntry : LogEntryAnon where
  body := .str ""
  integratedTime := some 1650000000
  logIndex := some 0
  logID := some "e52d9c508c502347344d8c07ad91cbd6068afc75ff6292f062a09ca381c89e71"
  verification := some ⟨some ⟨[], some 0,
    some "6e340b9cffb37a989ca544e6bb780a2c78901d3fb33738768511a30617afa01d", some 1⟩, [1]⟩

/-- A server that answers every search with that entry. -/
def provenEntryServer : LogClient :=
  { emptyEntryServer with
    searchLogQuery := fun _ => .ok [AList.singleton
      "6e340b9cffb37a989ca544e6bb780a2c78901d3fb33738768511a30617afa01d" provenEmptyEntry] }

/-- The environment with that server. -/
def provenBlobEnv : BlobEnv :=
  { sampleBlobEnv "1" [] with newRekorClient := fun _ _ => .ok provenEntryServer }

theorem provenBlobEnv_run : verifyBlobCmd provenBlobEnv sampleKeyArgs = .ok none := by
  decide +kernel

theorem provenEmptyEntry_verified :
    verifyTLogEntry provenBlobEnv.platform provenEntryServer.toRekorClient provenEmptyEntry =
      .ok none := by
  decide +kernel

theorem provenBlobEnv_proven : ¬FailingEntry provenBlobEnv sampleKeyArgs := by
  rintro ⟨client, e, cert, err, considered, fails⟩
  obtain ⟨rfl, rfl⟩ := sampleKeyArgs_considered (fun _ => rfl) considered
  cases fails.symm.trans provenEmptyEntry_verified

/-- The condition holds of the run with the proven entry, which is evidence, and decides the
other. -/
theorem blob_evidence_iff_proven :
    (verifyBlobCmd provenBlobEnv sampleKeyArgs = .ok none ∧
      LogEvidence provenBlobEnv sampleKeyArgs) ∧
    ((verifyBlobCmd (sampleBlobEnv "1" []) sampleKeyArgs = .ok none →
        LogEvidence (sampleBlobEnv "1" []) sampleKeyArgs) ↔
      (FailingEntry (sampleBlobEnv "1" []) sampleKeyArgs →
        LogEvidence (sampleBlobEnv "1" []) sampleKeyArgs)) := by
  have experimental : enableExperimental provenBlobEnv.platform = true :=
    sampleBlobEnv_experimental
  have sound : verifyBlobCmd provenBlobEnv sampleKeyArgs = .ok none →
      LogEvidence provenBlobEnv sampleKeyArgs :=
    (blob_evidence_iff experimental (fun _ cert _ => sampleKeyArgs_offline cert)
      ⟨none, provenBlobEnv_run⟩).mpr fun fails => absurd fails provenBlobEnv_proven
  refine ⟨⟨provenBlobEnv_run, sound provenBlobEnv_run⟩, ?_⟩
  exact blob_evidence_iff sampleBlobEnv_experimental (fun _ cert _ => sampleKeyArgs_offline cert)
    ⟨none, sampleKeyArgs_run⟩

section Offline

variable {ko : KeyOpts} {cert : Option Certificate}

/-- With offline evidence `verifyRekorEntry` returns no error, whatever the signature, the blob
and the key are. -/
theorem verifyRekorEntry_offline (reported : verifiedOffline env ko cert = .ok true) (made : Nat)
    (e : Option LogEntryAnon) (pubKey : Verifier) (b64sig : String) (blobBytes : Bytes) :
    verifyRekorEntry env ko made e pubKey cert b64sig blobBytes = .ok none := by
  simp [verifyRekorEntry, reported, bind, Except.bind]

/-- The bundle in the bundle file, with the text of its body. -/
def FileBundle (env : BlobEnv) (ko : KeyOpts) (bundle : RekorBundle) (body : String) : Prop :=
  ∃ b, fetchLocalSignedPayloadFromPath env.platform ko.bundlePath = .ok (some b) ∧
    b.bundle = some bundle ∧ bundle.payload.body = .str body

/-- The bundle file carries a bundle of a known log with a valid signed entry timestamp, at which
the certificate that is used, if any, was valid. -/
structure LogSigned (env : BlobEnv) (ko : KeyOpts) (cert : Option Certificate)
    (bundle : RekorBundle) : Prop where
  /-- A bundle file is given. -/
  given : ko.bundlePath ≠ ""
  /-- The file carries the bundle. -/
  carried : ∃ b, fetchLocalSignedPayloadFromPath env.platform ko.bundlePath = .ok (some b) ∧
    b.bundle = some bundle
  /-- A known log has signed it. -/
  signed : ∃ keys pubKey, getRekorPubs env.platform = .ok keys ∧
    keys.lookup bundle.payload.logID = some pubKey ∧
    verifySET env.platform bundle.payload bundle.signedEntryTimestamp pubKey.pubKey = none
  /-- The certificate was valid. -/
  timely : ∀ used, cert = some used → used.ValidAt (Time.unix bundle.payload.integratedTime)

/-- An entry is reported as verified offline exactly on the log's signature and the expiry of the
certificate. -/
theorem verifiedOffline_eq_true :
    verifiedOffline env ko cert = .ok true ↔ ∃ bundle, LogSigned env ko cert bundle := by
  unfold verifiedOffline verifyRekorBundle
  constructor
  · intro reported
    split at reported
    · rename_i given
      have ⟨err, checked, passes⟩ := bind_eq_ok.mp reported
      have passed : err = none := by simpa using passes
      subst passed
      cases fetched : fetchLocalSignedPayloadFromPath env.platform ko.bundlePath with
      | error err => simp [fetched] at checked
      | ok payload =>
        simp only [fetched] at checked
        have ⟨b, there, rest⟩ := bind_eq_ok.mp checked
        rw [deref_eq_ok] at there
        subst there
        cases carried : b.bundle with
        | none => simp [carried] at rest
        | some bundle =>
          cases trusted : getRekorPubs env.platform with
          | error err => simp [carried, trusted] at rest
          | ok keys =>
            cases found : keys.lookup bundle.payload.logID with
            | none => simp [carried, trusted, found] at rest
            | some pubKey =>
              cases signed : verifySET env.platform bundle.payload bundle.signedEntryTimestamp
                pubKey.pubKey with
              | some err => simp [carried, trusted, found, signed] at rest
              | none =>
                refine ⟨bundle, given, ⟨b, fetched, carried⟩, ⟨keys, pubKey, trusted, found,
                  signed⟩, fun used certified => ?_⟩
                simp only [carried, trusted, found, signed, certified, Except.ok.injEq] at rest
                exact checkExpiry_eq_none.mp rest
    · cases reported
  · intro ⟨bundle, given, ⟨b, fetched, carried⟩, ⟨keys, pubKey, trusted, found, signed⟩, timely⟩
    rw [if_pos given]
    simp only [fetched, deref, bind, Except.bind, carried, trusted, found, signed]
    cases cert with
    | none => rfl
    | some used =>
      dsimp only
      rw [checkExpiry_eq_none.mpr (timely used rfl)]
      rfl

/-- A recorded key is the one that is used: the certificate if there is one, or else the public
key of the verifier. -/
def SameKey (env : BlobEnv) (pubKey : Verifier) (cert : Option Certificate) (recorded : Bytes) :
    Prop :=
  match cert with
  | some used => ∃ certs, env.unmarshalCertificatesFromPEM recorded = .ok (used :: certs)
  | none => ∃ pub, pubKey.publicKey [⟨"WithContext"⟩] = .ok pub ∧
      env.platform.unmarshalPEMToPublicKey recorded = .ok pub

/-- The entry of a body names the signature, the SHA-256 of the blob and the key. -/
def NamesArtifact (env : BlobEnv) (body : String) (signature blobBytes : Bytes)
    (pubKey : Verifier) (cert : Option Certificate) : Prop :=
  ∃ entry recorded key, Reads env.platform body entry ∧
    entry.hash = some ("sha256", payloadHash env.platform blobBytes) ∧
    entry.signature = some recorded ∧ recorded.content = signature ∧
    recorded.publicKey = some key ∧ SameKey env pubKey cert key

/-- The entry in the bundle file names the signature, the blob and the key. -/
def FileNames (env : BlobEnv) (ko : KeyOpts) (cert : Option Certificate) (pubKey : Verifier)
    (b64sig : String) (blobBytes : Bytes) : Prop :=
  ∃ bundle body signature, FileBundle env ko bundle body ∧
    Base64.stdDecode b64sig = some signature ∧
    NamesArtifact env body signature blobBytes pubKey cert

theorem FileBundle.unique {bundle other : RekorBundle} {body text : String}
    (file : FileBundle env ko bundle body) (again : FileBundle env ko other text) :
    body = text := by
  have ⟨b, fetched, carried, is⟩ := file
  have ⟨c, fetched', carried', is'⟩ := again
  cases fetched.symm.trans fetched'
  cases carried.symm.trans carried'
  exact Json.str.inj (is.symm.trans is')

theorem FileNames.signature_unique (exclude : KindsExclude env.platform) {pubKey : Verifier}
    {first second blobBytes : Bytes}
    (names : FileNames env ko cert pubKey (Base64.stdEncode first) blobBytes)
    (again : FileNames env ko cert pubKey (Base64.stdEncode second) blobBytes) :
    first = second := by
  have ⟨_, body, signature, file, decoded, entry, recorded, _, reads, _, signed, same, _⟩ := names
  have ⟨_, text, signature', file', decoded', _, _, _, reads', _, signed', same', _⟩ := again
  rw [Base64.stdDecode_stdEncode] at decoded decoded'
  cases decoded
  cases decoded'
  cases file.unique file'
  cases reads.unique exclude reads'
  cases signed.symm.trans signed'
  exact same.symm.trans same'

/-- The entry that the log has made of a proposal for the blob, the signature and the key names
them. -/
theorem FileNames.of_logged {b : LocalSignedPayload} {entry : LogEntryAnon} {bundle : RekorBundle}
    {pubKey : Verifier} {signature blobBytes key : Bytes}
    (fetched : fetchLocalSignedPayloadFromPath env.platform ko.bundlePath = .ok (some b))
    (carried : b.bundle = some bundle)
    (logged : Logged env.platform (rekorEntry env.platform blobBytes signature key) entry bundle)
    (same : SameKey env pubKey cert key) :
    FileNames env ko cert pubKey (Base64.stdEncode signature) blobBytes := by
  have ⟨body, text, obj, reads, hash, recorded⟩ := logged.records
  exact ⟨bundle, body, signature, ⟨b, fetched, carried, text⟩, Base64.stdDecode_stdEncode _,
    .hashedrekord obj, _, key, reads, hash, recorded, rfl, rfl, same⟩

/-- **What an entry reported as verified offline is bound to.** The report depends on the log's
signature and the expiry of the certificate alone, and with it `verifyRekorEntry` returns no error
for any signature, blob and key. So what is reported names them for all of these exactly if nothing
is reported. It does name them in the bundle that the log has made of the proposal of `sign-blob`.
-/
theorem offline_binds_iff (exclude : KindsExclude env.platform) :
    (verifiedOffline env ko cert = .ok true ↔ ∃ bundle, LogSigned env ko cert bundle) ∧
    (verifiedOffline env ko cert = .ok true → ∀ made e pubKey b64sig blobBytes,
      verifyRekorEntry env ko made e pubKey cert b64sig blobBytes = .ok none) ∧
    ((∀ pubKey b64sig blobBytes, verifiedOffline env ko cert = .ok true →
        FileNames env ko cert pubKey b64sig blobBytes) ↔
      ¬∃ bundle, LogSigned env ko cert bundle) ∧
    ∀ b bundle entry pubKey signature blobBytes key,
      fetchLocalSignedPayloadFromPath env.platform ko.bundlePath = .ok (some b) →
      b.bundle = some bundle →
      Logged env.platform (rekorEntry env.platform blobBytes signature key) entry bundle →
      SameKey env pubKey cert key →
      FileNames env ko cert pubKey (Base64.stdEncode signature) blobBytes := by
  refine ⟨verifiedOffline_eq_true, verifyRekorEntry_offline, ?_, ?_⟩
  · rw [← verifiedOffline_eq_true]
    constructor
    · intro binds reported
      have names (signature : Bytes) : FileNames env ko cert sampleVerifier
          (Base64.stdEncode signature) [] := binds _ _ _ reported
      cases (names []).signature_unique exclude (names [0])
    · exact fun unreported _ _ _ reported => absurd reported unreported
  · intro b bundle entry pubKey signature blobBytes key fetched carried logged same
    exact .of_logged fetched carried logged same

end Offline

/-- A bundle file of the sample log around an entry that records another blob. -/
def strangersBundleFile : Bytes :=
  Json.marshal (.obj [("base64Signature", .str "AQ=="),
    ("rekorBundle", .obj [("SignedEntryTimestamp", .str "AQ=="),
      ("Payload", .obj [("body", sampleHashedrekordBody "00"),
        ("integratedTime", .num "1650000000"), ("logIndex", .num "0"),
        ("logID", .str
          "e52d9c508c502347344d8c07ad91cbd6068afc75ff6292f062a09ca381c89e71")])])])

/-- The key options with the bundle file. -/
def sampleBundleOpts : KeyOpts where
  keyRef := "cosign.pub"
  bundlePath := "bundle.json"

/-- The environment with the bundle file. -/
def strangersBundleEnv : BlobEnv := sampleBlobEnv "" strangersBundleFile

theorem strangersBundleEnv_excludes : KindsExclude strangersBundleEnv.platform :=
  ⟨samplePlatform_excludes.rekord_hashedrekord, samplePlatform_excludes.rekord_intoto,
    samplePlatform_excludes.hashedrekord_intoto⟩

theorem strangersBundleEnv_fetches :
    fetchLocalSignedPayloadFromPath strangersBundleEnv.platform "bundle.json" =
      .ok (some ⟨"AQ==", "", some (sampleBundle (sampleHashedrekordBody "00"))⟩) := by
  show LocalSignedPayload.unmarshal strangersBundleFile = _
  unfold LocalSignedPayload.unmarshal strangersBundleFile
  rw [unmarshal_marshal]
  · rfl
  · refine ⟨by decide, trivial, ⟨by decide, trivial,
      ⟨by decide, trivial, ?_, ?_, trivial, trivial⟩, trivial⟩, trivial⟩
    · exact isNumber_int64 1650000000
    · exact isNumber_int64 0

theorem strangersBundleEnv_reports :
    verifiedOffline strangersBundleEnv sampleBundleOpts none = .ok true :=
  verifiedOffline_eq_true.mpr ⟨_, by decide, ⟨_, strangersBundleEnv_fetches, rfl⟩,
    ⟨_, _, rfl, rfl, rfl⟩, nofun⟩

theorem strangersBundleEnv_run :
    verifyBlobCmd strangersBundleEnv
      { ko := sampleBundleOpts, sigRef := "AQ==", blobRef := "blob" } = .ok none := by
  have given : Given strangersBundleEnv
      { ko := sampleBundleOpts, sigRef := "AQ==", blobRef := "blob" } [1] "AQ==" samplePayload :=
    ⟨by decide, rfl, rfl⟩
  rw [verifyBlobCmd_given given rfl]
  exact verifyRekorEntry_offline strangersBundleEnv_reports 0 none _ _ _

/-- A genuine bundle of another blob is accepted as log evidence for this one. -/
theorem strangers_bundle_file_accepted :
    verifiedOffline strangersBundleEnv sampleBundleOpts none = .ok true ∧
      verifyBlobCmd strangersBundleEnv
        { ko := sampleBundleOpts, sigRef := "AQ==", blobRef := "blob" } = .ok none ∧
      ¬FileNames strangersBundleEnv sampleBundleOpts none sampleVerifier "AQ==" samplePayload := by
  refine ⟨strangersBundleEnv_reports, strangersBundleEnv_run, ?_⟩
  intro ⟨bundle, body, signature, ⟨b, fetched, carried, text⟩, _, entry, _, _, reads, hash, _⟩
  cases strangersBundleEnv_fetches.symm.trans fetched
  cases carried
  have recorded : Reads strangersBundleEnv.platform body _ :=
    reads_sampleHashedrekordBody ⟨rfl, rfl⟩ text
  cases reads.unique strangersBundleEnv_excludes recorded
  revert hash
  decide +kernel

/-- Without a bundle file nothing is reported, and with that one some signature breaks the
claim. -/
theorem offline_binds_iff_strangers :
    (∀ pubKey b64sig blobBytes, verifiedOffline strangersBundleEnv { keyRef := "cosign.pub" } none =
        .ok true → FileNames strangersBundleEnv { keyRef := "cosign.pub" } none pubKey b64sig
          blobBytes) ∧
      ¬∀ pubKey b64sig blobBytes, verifiedOffline strangersBundleEnv sampleBundleOpts none =
        .ok true → FileNames strangersBundleEnv sampleBundleOpts none pubKey b64sig blobBytes := by
  constructor
  · apply (offline_binds_iff strangersBundleEnv_excludes).2.2.1.mpr
    intro ⟨bundle, signed⟩
    exact signed.given rfl
  · intro binds
    apply (offline_binds_iff strangersBundleEnv_excludes).2.2.1.mp binds
    exact verifiedOffline_eq_true.mp strangersBundleEnv_reports

end Cosign.Verif
