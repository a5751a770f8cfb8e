import Cosign.Cli.VerifyBlob
import Cosign.Verif.Tlog

/-!
# What a run of verify-blob establishes

The two ways through `VerifyBlobCmd`, with a selected key and by the log, come to `verifyRekorEntry`
on one entry of the log. `Considered` says which entries come there, and `verifyBlobCmd_succeeds`
that in experimental mode a run succeeds exactly when that step passes for one of them.
-/
namespace Cosign.Verif

open Cosign.Go Cosign.Encoding Cosign.Oci Cosign.Verify Cosign.Cli

variable {p : Platform} {env : BlobEnv} {args : VerifyBlobArgs} {client : LogClient}
  {e : LogEntryAnon} {cert : Option Certificate} {sig blobBytes : Bytes} {b64sig : String}
  {verifier : Verifier}

/-- The integrated time of an entry is within the validity period of the certificate, if there
is one. -/
def Timely (e : LogEntryAnon) (cert : Option Certificate) : Prop :=
  ∀ used, cert = some used → ∃ integratedTime, e.integratedTime = some integratedTime ∧
    used.ValidAt (Time.unix integratedTime)

/-- The last step on an entry that verifies is the expiry of the certificate. -/
theorem verifyEntryAtHand_verified
    (verified : verifyTLogEntry p client.toRekorClient e = .ok none) :
    verifyEntryAtHand p client e cert = .ok none ↔ Timely e cert := by
  obtain ⟨⟨verification, proof, rootHash, logIndex, treeSize, body, bytes, verifiable, proven, -,
    position, -, text, decoded, -⟩, signed⟩ := verifyTLogEntry_eq_none.mp verified
  obtain ⟨-, integratedTime, -, -, -, -, -, time, -⟩ := signed
  have hashed : computeLeafHash p e = .ok (.ok (p.hashLeaf bytes)) := by
    simp [computeLeafHash, text, assertString, decoded, bind, Except.bind]
  unfold verifyEntryAtHand Timely
  simp only [verified, hashed, verifiable, proven, position, time, deref, bind, Except.bind]
  cases cert with
  | none => simp
  | some used => simp [checkExpiry_eq_none]

/-- The last step passes for an entry that does not verify, and for one that does within the
validity period of the certificate. -/
theorem verifyEntryAtHand_eq_none :
    verifyEntryAtHand p client e cert = .ok none ↔
      (∃ err, verifyTLogEntry p client.toRekorClient e = .ok (some err)) ∨
        verifyTLogEntry p client.toRekorClient e = .ok none ∧ Timely e cert := by
  cases outcome : verifyTLogEntry p client.toRekorClient e with
  | error panic => simp [verifyEntryAtHand, outcome, bind, Except.bind]
  | ok err =>
    cases err with
    | some err => simp [verifyEntryAtHand, outcome, bind, Except.bind]
    | none => simp [verifyEntryAtHand_verified outcome]

/-- In experimental mode and without offline evidence, the entry has to be at hand and pass the
last step. -/
theorem verifyRekorEntry_eq_none {ko : KeyOpts} {made : Nat} {given : Option LogEntryAnon}
    (experimental : enableExperimental env.platform = true)
    (offline : verifiedOffline env ko cert = .ok false) :
    verifyRekorEntry env ko made given verifier cert b64sig blobBytes = .ok none ↔
      ∃ client e, env.newRekorClient made ko.rekorURL = .ok client ∧
        entryAtHand env.platform client given verifier cert b64sig blobBytes = .ok (.ok e) ∧
        verifyEntryAtHand env.platform client e cert = .ok none := by
  unfold verifyRekorEntry
  simp only [offline, experimental, bind, Except.bind, Bool.false_eq_true, if_false,
    Bool.not_true]
  cases env.newRekorClient made ko.rekorURL with
  | error err => simp
  | ok client =>
    cases found : entryAtHand env.platform client given verifier cert b64sig blobBytes with
    | error panic => simp [found]
    | ok outcome => cases outcome <;> simp [found]

/-- The signature and the blob that a run verifies. -/
structure Given (env : BlobEnv) (args : VerifyBlobArgs) (sig : Bytes) (b64sig : String)
    (blobBytes : Bytes) : Prop where
  /-- The flags are enough to start. -/
  started : ¬((!oneOf [args.ko.keyRef ≠ "", args.ko.sk, args.certRef ≠ ""] &&
    !enableExperimental env.platform && args.ko.bundlePath = "") = true)
  /-- The signature is read. -/
  signed : signatures env args.sigRef args.ko.bundlePath = .ok (.ok (sig, b64sig))
  read : payloadBytes env args.blobRef = .ok blobBytes

/-- After the signature and the blob are read, the selected key decides how the run goes on. -/
theorem verifyBlobCmd_given (given : Given env args sig b64sig blobBytes)
    {selected : Option (Verifier × Option Certificate)}
    (selects : selectVerifier env args = .ok (.ok selected)) :
    verifyBlobCmd env args =
      match selected with
      | some (verifier, cert) => verifyWithKey env args sig b64sig blobBytes verifier cert
      | none => verifyByLog env args sig b64sig blobBytes := by
  unfold verifyBlobCmd
  rw [if_neg given.started]
  simp only [given.signed, given.read, selects, bind, Except.bind]
  cases selected <;> rfl

theorem verifyBlobCmd_unselected (given : Given env args sig b64sig blobBytes) {err : GoError}
    (fails : selectVerifier env args = .ok (.error err)) :
    verifyBlobCmd env args = .ok (some err) := by
  unfold verifyBlobCmd
  rw [if_neg given.started]
  simp only [given.signed, given.read, fails, bind, Except.bind]

/-- A run that succeeds has read the signature and the blob and has selected a key. -/
theorem verifyBlobCmd_reads (succeeds : verifyBlobCmd env args = .ok none) :
    ∃ sig b64sig blobBytes selected, Given env args sig b64sig blobBytes ∧
      selectVerifier env args = .ok (.ok selected) := by
  unfold verifyBlobCmd at succeeds
  split at succeeds
  · cases succeeds
  · rename_i started
    obtain ⟨signed, signs, succeeds⟩ := bind_eq_ok.mp succeeds
    rcases signed with err | ⟨sig, b64sig⟩
    · cases succeeds
    · dsimp only at succeeds
      split at succeeds
      · cases succeeds
      · rename_i blobBytes read
        obtain ⟨selected, selects, succeeds⟩ := bind_eq_ok.mp succeeds
        cases selected with
        | error err => cases succeeds
        | ok selected => exact ⟨sig, b64sig, blobBytes, selected, ⟨started, signs, read⟩, selects⟩

/-- An entry of the log with a certificate under which the signature of the blob verifies. -/
structure LogCandidate (env : BlobEnv) (args : VerifyBlobArgs) (rClient : LogClient)
    (sig blobBytes : Bytes) (request : Nat) (uuid : String) (e : LogEntryAnon)
    (cert : Certificate) (verifier : Verifier) : Prop where
  /-- The log returns the entry for the UUID. -/
  fetched : getTlogEntry env.platform rClient request uuid = .ok (.ok e)
  /-- The certificate is the first in the entry. -/
  extracted : ∃ certs, extractCerts env e = .ok (.ok (cert, certs))
  /-- The certificate passes the checks. -/
  validated : validateAndUnpackCert env.platform cert (logCheckOpts env args) = .ok verifier
  /-- The signature verifies under its key. -/
  verified : (blobVerifier env blobBytes verifier).verifySignature sig blobBytes = none

/-- An iteration is decided by the entry, the certificate in it and the last step. -/
theorem verifySigByEntry_eq_true {rClient : LogClient} {request : Nat} {uuid : String}
    (experimental : enableExperimental env.platform = true)
    (unbundled : args.ko.bundlePath = "") :
    verifySigByEntry env args rClient sig b64sig blobBytes request uuid = .ok true ↔
      ∃ e cert verifier client,
        LogCandidate env args rClient sig blobBytes request uuid e cert verifier ∧
        env.newRekorClient (request + 1) args.ko.rekorURL = .ok client ∧
        verifyEntryAtHand env.platform client e (some cert) = .ok none := by
  have offline : ∀ cert, verifiedOffline env args.ko cert = .ok false := by
    intro cert
    simp [verifiedOffline, unbundled]
  constructor
  · intro valid
    obtain ⟨fetched, fetches, valid⟩ := bind_eq_ok.mp valid
    rcases fetched with err | e
    · cases valid
    · obtain ⟨extracted, extracts, valid⟩ := bind_eq_ok.mp valid
      rcases extracted with err | ⟨cert, certs⟩
      · cases valid
      · dsimp only at valid
        split at valid
        · cases valid
        · rename_i verifier validated
          split at valid
          · cases valid
          · rename_i verified
            obtain ⟨err, checked, passed⟩ := bind_eq_ok.mp valid
            have unfailing : err = none := by simpa using passed
            subst unfailing
            obtain ⟨client, e', made, atHand, passes⟩ :=
              (verifyRekorEntry_eq_none experimental (offline _)).mp checked
            simp only [entryAtHand, Except.ok.injEq] at atHand
            subst atHand
            exact ⟨e, cert, verifier, client, ⟨fetches, ⟨certs, extracts⟩, validated, verified⟩,
              made, passes⟩
  · rintro ⟨e, cert, verifier, client, candidate, made, passes⟩
    obtain ⟨certs, extracts⟩ := candidate.extracted
    have checked : verifyRekorEntry env args.ko (request + 1) (some e)
        (blobVerifier env blobBytes verifier) (some cert) b64sig blobBytes = .ok none :=
      (verifyRekorEntry_eq_none experimental (offline _)).mpr ⟨client, e, made, rfl, passes⟩
    simp only [verifySigByEntry, candidate.fetched, extracts, candidate.validated,
      candidate.verified, checked, bind, Except.bind, Option.isNone_none]

/-- A loop that returns finds a valid entry exactly when one of the iterations does. -/
theorem validSigExists_eq_true {rClient : LogClient} {request : Nat} {uuids : List String}
    (returns : Returns (validSigExists env args rClient sig b64sig blobBytes request uuids)) :
    validSigExists env args rClient sig b64sig blobBytes request uuids = .ok true ↔
      ∃ index uuid, uuids[index]? = some uuid ∧
        verifySigByEntry env args rClient sig b64sig blobBytes (request + index) uuid =
          .ok true := by
  induction uuids generalizing request with
  | nil => simp [validSigExists]
  | cons uuid rest ih =>
    unfold validSigExists at returns ⊢
    obtain ⟨valid, first, returns⟩ := returns_bind.mp returns
    obtain ⟨more, later, -⟩ := returns_bind.mp returns
    have found := ih ⟨more, later⟩
    simp only [first, later, bind, Except.bind, Except.ok.injEq, Bool.or_eq_true] at found ⊢
    rw [found]
    constructor
    · rintro (here | ⟨index, other, listed, there⟩)
      · exact ⟨0, uuid, rfl, by simpa [here] using first⟩
      · refine ⟨index + 1, other, listed, ?_⟩
        rw [Nat.add_assoc, Nat.add_comm 1 index] at there
        exact there
    · rintro ⟨index, other, listed, there⟩
      cases index with
      | zero =>
        cases listed
        rw [Nat.add_zero, first] at there
        exact .inl (Except.ok.inj there)
      | succ index =>
        refine .inr ⟨index, other, listed, ?_⟩
        rw [Nat.add_assoc, Nat.add_comm 1 index]
        exact there

/-- An entry of the log that a run in experimental mode comes to verify, by the client it asks
and the certificate that is used. -/
inductive Considered (env : BlobEnv) (args : VerifyBlobArgs) :
    LogClient → LogEntryAnon → Option Certificate → Prop
  /-- The entry that the search for the signature, the blob and the selected key returns. -/
  | key {sig blobBytes : Bytes} {b64sig : String} {verifier : Verifier}
      {cert : Option Certificate} {client : LogClient} {e : LogEntryAnon} :
      Given env args sig b64sig blobBytes →
      selectVerifier env args = .ok (.ok (some (verifier, cert))) →
      (blobVerifier env blobBytes verifier).verifySignature sig blobBytes = none →
      env.newRekorClient 0 args.ko.rekorURL = .ok client →
      entryAtHand env.platform client none (blobVerifier env blobBytes verifier) cert b64sig
        blobBytes = .ok (.ok e) →
      Considered env args client e cert
  /-- An entry for the blob with a certificate under which the signature verifies. -/
  | log {sig blobBytes : Bytes} {b64sig : String} {rClient client : LogClient}
      {uuids : List String} {index : Nat} {uuid : String} {e : LogEntryAnon}
      {cert : Certificate} {verifier : Verifier} :
      Given env args sig b64sig blobBytes → selectVerifier env args = .ok (.ok none) →
      env.newRekorClient 0 args.ko.rekorURL = .ok rClient →
      findTLogEntriesByPayload env.platform rClient blobBytes = .ok uuids →
      uuids[index]? = some uuid →
      LogCandidate env args rClient sig blobBytes index uuid e cert verifier →
      env.newRekorClient (index + 1) args.ko.rekorURL = .ok client →
      Considered env args client e (some cert)

/-- The log is searched for a certificate only without a bundle. -/
theorem selectVerifier_log (selects : selectVerifier env args = .ok (.ok none)) :
    args.ko.bundlePath = "" := by
  unfold selectVerifier at selects
  dsimp only at selects
  split at selects
  · cases loaded : env.publicKeyFromKeyRef args.ko.keyRef <;>
      simp [wrapping, loaded, Except.mapError, Except.map] at selects
  · split at selects
    · rcases loaded : env.getKeyWithSlot args.ko.slot with err | (err | key) <;>
        simp [wrapping, loaded, Except.mapError, bind, Except.bind] at selects
    · split at selects
      · cases loaded : certVerifier env args <;> simp [loaded, Except.map] at selects
      · split at selects
        · obtain ⟨selected, -, selects⟩ := bind_eq_ok.mp selects
          cases selected <;> simp [Except.map] at selects
        · rename_i unbundled
          exact not_not.mp unbundled

theorem verifyWithKey_eq_none (experimental : enableExperimental env.platform = true)
    (offline : verifiedOffline env args.ko cert = .ok false) :
    verifyWithKey env args sig b64sig blobBytes verifier cert = .ok none ↔
      (blobVerifier env blobBytes verifier).verifySignature sig blobBytes = none ∧
      ∃ client e, env.newRekorClient 0 args.ko.rekorURL = .ok client ∧
        entryAtHand env.platform client none (blobVerifier env blobBytes verifier) cert b64sig
          blobBytes = .ok (.ok e) ∧
        verifyEntryAtHand env.platform client e cert = .ok none := by
  unfold verifyWithKey
  cases verified : (blobVerifier env blobBytes verifier).verifySignature sig blobBytes with
  | some err => simp [verified]
  | none =>
    simp only [verified, true_and]
    exact verifyRekorEntry_eq_none experimental offline

/-- A run with a selected key that returns after the signature verifies has asked for offline
evidence. -/
theorem returns_verifiedOffline
    (verified : (blobVerifier env blobBytes verifier).verifySignature sig blobBytes = none)
    (returns : Returns (verifyWithKey env args sig b64sig blobBytes verifier cert)) :
    Returns (verifiedOffline env args.ko cert) := by
  unfold verifyWithKey at returns
  simp only [verified] at returns
  obtain ⟨offline, asked, -⟩ := returns_bind.mp returns
  exact ⟨offline, asked⟩

theorem verifiedOffline_false (returns : Returns (verifiedOffline env args.ko cert))
    (offline : verifiedOffline env args.ko cert ≠ .ok true) :
    verifiedOffline env args.ko cert = .ok false := by
  obtain ⟨found, asked⟩ := returns
  cases found with
  | false => exact asked
  | true => exact absurd asked offline

theorem verifyByLog_eq_none {rClient : LogClient} {uuids : List String}
    (made : env.newRekorClient 0 args.ko.rekorURL = .ok rClient)
    (searched : findTLogEntriesByPayload env.platform rClient blobBytes = .ok uuids)
    (returns : Returns (verifyByLog env args sig b64sig blobBytes)) :
    verifyByLog env args sig b64sig blobBytes = .ok none ↔
      ∃ index uuid, uuids[index]? = some uuid ∧
        verifySigByEntry env args rClient sig b64sig blobBytes index uuid = .ok true := by
  unfold verifyByLog at returns ⊢
  simp only [made, searched] at returns ⊢
  by_cases empty : uuids.length = 0
  · have nothing : uuids = [] := List.length_eq_zero_iff.mp empty
    simp [nothing]
  · simp only [empty, if_false] at returns ⊢
    unfold verifySigByUUID at returns ⊢
    obtain ⟨found, looped, -⟩ := returns_bind.mp returns
    have exists_iff := validSigExists_eq_true ⟨found, looped⟩
    simp only [Nat.zero_add] at exists_iff
    rw [← exists_iff, looped]
    cases found <;> simp [bind, Except.bind]

/-- A run in experimental mode without offline evidence that returns succeeds exactly when the
last step passes for some entry that it considers. -/
theorem verifyBlobCmd_succeeds (experimental : enableExperimental env.platform = true)
    (offline : ∀ verifier cert, selectVerifier env args = .ok (.ok (some (verifier, cert))) →
      verifiedOffline env args.ko cert ≠ .ok true)
    (returns : Returns (verifyBlobCmd env args)) :
    verifyBlobCmd env args = .ok none ↔
      ∃ client e cert, Considered env args client e cert ∧
        verifyEntryAtHand env.platform client e cert = .ok none := by
  constructor
  · intro succeeds
    obtain ⟨sig, b64sig, blobBytes, selected, given, selects⟩ := verifyBlobCmd_reads succeeds
    rw [verifyBlobCmd_given given selects] at succeeds returns
    cases selected with
    | some selected =>
      obtain ⟨verifier, cert⟩ := selected
      have verified :
          (blobVerifier env blobBytes verifier).verifySignature sig blobBytes = none := by
        cases outcome : (blobVerifier env blobBytes verifier).verifySignature sig blobBytes with
        | none => rfl
        | some err => simp [verifyWithKey, outcome] at succeeds
      have online := verifiedOffline_false (returns_verifiedOffline verified returns)
        (offline verifier cert selects)
      obtain ⟨-, client, e, made, found, passes⟩ :=
        (verifyWithKey_eq_none experimental online).mp succeeds
      exact ⟨client, e, cert, .key given selects verified made found, passes⟩
    | none =>
      dsimp only at succeeds returns
      have unbundled := selectVerifier_log selects
      cases made : env.newRekorClient 0 args.ko.rekorURL with
      | error err => simp [verifyByLog, made] at succeeds
      | ok rClient =>
        cases searched : findTLogEntriesByPayload env.platform rClient blobBytes with
        | error err => simp [verifyByLog, made, searched] at succeeds
        | ok uuids =>
          obtain ⟨index, uuid, listed, valid⟩ :=
            (verifyByLog_eq_none made searched returns).mp succeeds
          obtain ⟨e, cert, verifier, client, candidate, made', passes⟩ :=
            (verifySigByEntry_eq_true experimental unbundled).mp valid
          exact ⟨client, e, some cert,
            .log given selects made searched listed candidate made', passes⟩
  · rintro ⟨client, e, cert, considered, passes⟩
    cases considered with
    | key given selects verified made found =>
      rw [verifyBlobCmd_given given selects] at returns ⊢
      have online := verifiedOffline_false (returns_verifiedOffline verified returns)
        (offline _ cert selects)
      exact (verifyWithKey_eq_none experimental online).mpr
        ⟨verified, client, e, made, found, passes⟩
    | log given selects made searched listed candidate made' =>
      rw [verifyBlobCmd_given given selects] at returns ⊢
      have unbundled := selectVerifier_log selects
      refine (verifyByLog_eq_none made searched returns).mpr ⟨_, _, listed, ?_⟩
      exact (verifySigByEntry_eq_true experimental unbundled).mpr
        ⟨e, _, _, client, candidate, made', passes⟩

end Cosign.Verif
