import Cosign.Verify.Tlog
import Cosign.Spec.LogEntry

/-!
# What an entry found in the log establishes

The entry that `FindTlogEntry` returns is the only one in the server's answer and its UUID is its
leaf hash; nothing else ties it to what was searched. `VerifyTLogEntry` adds the inclusion proof and
the signed entry timestamp.
-/
namespace Cosign.Verif

open Cosign.Go Cosign.Encoding Cosign.Oci Cosign.Verify Cosign.Spec

variable {p : Platform} {client : RekorClient} {sig : Signature} {e : LogEntryAnon}

/-- The server answers the search for a signature, a payload and a key with one entry. -/
structure Answers (p : Platform) (client : RekorClient) (sig : Signature) (pem : Bytes)
    (proposed : ProposedEntry) (uuid : String) (e : LogEntryAnon) : Prop where
  /-- The entry that is searched for. -/
  searched : ∃ b64sig payload, sig.base64Signature = .ok b64sig ∧ sig.payload = .ok payload ∧
    proposedEntry p b64sig payload pem = .ok [proposed]
  /-- The answer holds the entry under the UUID and nothing else. -/
  answered : ∃ logEntry : GoMap LogEntryAnon,
    client.searchLogQuery [proposed] = .ok [logEntry] ∧ logEntry.entries = [⟨uuid, e⟩]

theorem Answers.unique {pem : Bytes} {proposed proposed' : ProposedEntry} {uuid uuid' : String}
    {e' : LogEntryAnon} (first : Answers p client sig pem proposed uuid e)
    (second : Answers p client sig pem proposed' uuid' e') :
    proposed = proposed' ∧ uuid = uuid' ∧ e = e' := by
  obtain ⟨⟨b64sig, payload, base64, read, built⟩, logEntry, answered, sole⟩ := first
  obtain ⟨⟨b64sig', payload', base64', read', built'⟩, logEntry', answered', sole'⟩ := second
  cases base64.symm.trans base64'
  cases read.symm.trans read'
  cases built.symm.trans built'
  cases answered.symm.trans answered'
  cases sole.symm.trans sole'
  exact ⟨rfl, rfl, rfl⟩

/-- The leaf hash of an entry is its UUID. -/
def LeafIs (p : Platform) (uuid : String) (e : LogEntryAnon) : Prop :=
  ∃ body bytes, e.body = .str body ∧ Base64.stdDecode body = some bytes ∧
    p.hashLeaf bytes = Hex.decodeString uuid

theorem verifyUUID_eq_none {uuid : String} :
    verifyUUID p uuid e = .ok none ↔ LeafIs p uuid e := by
  constructor
  · intro passed
    obtain ⟨hash, computed, passed⟩ := bind_eq_ok.mp passed
    obtain ⟨body, text, computed⟩ := bind_eq_ok.mp computed
    split at computed
    · cases computed
      cases passed
    · rename_i bytes decoded
      cases computed
      dsimp only at passed
      split at passed
      · cases passed
      · rename_i same
        exact ⟨body, bytes, assertString_eq_ok.mp text, decoded, not_not.mp same⟩
  · rintro ⟨body, bytes, text, decoded, same⟩
    simp [verifyUUID, computeLeafHash, text, assertString, decoded, same, bind, Except.bind]

/-- The sole entry of an answer is returned if its leaf hash is its UUID. -/
theorem soleEntry_eq_ok {answer : List (GoMap LogEntryAnon)} :
    soleEntry p answer = .ok (.ok e) ↔
      ∃ uuid logEntry, answer = [logEntry] ∧ logEntry.entries = [⟨uuid, e⟩] ∧
        LeafIs p uuid e := by
  constructor
  · intro found
    unfold soleEntry at found
    split at found
    · cases found
    · cases found
    · rename_i logEntry
      split at found
      · rename_i uuid entry sole
        obtain ⟨err, verified, found⟩ := bind_eq_ok.mp found
        cases err with
        | some err => cases found
        | none =>
          cases found
          exact ⟨uuid, logEntry, rfl, sole, verifyUUID_eq_none.mp verified⟩
      · cases found
  · rintro ⟨uuid, logEntry, rfl, sole, leaf⟩
    simp only [soleEntry, sole, verifyUUID_eq_none.mpr leaf, bind, Except.bind]

theorem proposedEntry_single {b64sig : String} {payload pem : Bytes}
    {proposed : List ProposedEntry} (built : proposedEntry p b64sig payload pem = .ok proposed) :
    ∃ only, proposed = [only] := by
  unfold proposedEntry at built
  split at built
  · cases built
  · split at built
    · cases built
      exact ⟨_, rfl⟩
    · cases built
      exact ⟨_, rfl⟩

/-- `FindTlogEntry` returns the only entry of the only map of the server's answer, if its leaf
hash is its UUID. -/
theorem findTlogEntry_eq_ok {b64sig : String} {payload pem : Bytes} :
    findTlogEntry p client b64sig payload pem = .ok (.ok e) ↔
      ∃ proposed logEntry uuid, proposedEntry p b64sig payload pem = .ok proposed ∧
        client.searchLogQuery proposed = .ok [logEntry] ∧ logEntry.entries = [⟨uuid, e⟩] ∧
        LeafIs p uuid e := by
  constructor
  · intro found
    unfold findTlogEntry at found
    split at found
    · cases found
    · rename_i proposed built
      split at found
      · cases found
      · rename_i answer answered
        obtain ⟨uuid, logEntry, rfl, sole, leaf⟩ := soleEntry_eq_ok.mp found
        exact ⟨proposed, logEntry, uuid, built, answered, sole, leaf⟩
  · intro ⟨proposed, logEntry, uuid, built, answered, sole, leaf⟩
    simp only [findTlogEntry, built, answered]
    exact soleEntry_eq_ok.mpr ⟨uuid, logEntry, rfl, sole, leaf⟩

/-- The search of a signature finds exactly the server's answer, if its leaf hash is its
UUID. -/
theorem findSignature_eq_ok {pem : Except GoError Bytes} :
    findSignature p client sig pem = .ok (.ok e) ↔
      ∃ pemBytes proposed uuid, pem = .ok pemBytes ∧
        Answers p client sig pemBytes proposed uuid e ∧ LeafIs p uuid e := by
  constructor
  · intro found
    unfold findSignature at found
    split at found
    · cases found
    · rename_i pemBytes
      split at found
      · cases found
      · rename_i b64sig base64
        split at found
        · cases found
        · rename_i payload read
          obtain ⟨proposed, logEntry, uuid, built, answered, sole, leaf⟩ :=
            findTlogEntry_eq_ok.mp found
          obtain ⟨only, rfl⟩ := proposedEntry_single built
          exact ⟨pemBytes, only, uuid, rfl,
            ⟨⟨b64sig, payload, base64, read, built⟩, logEntry, answered, sole⟩, leaf⟩
  · rintro ⟨pemBytes, proposed, uuid, rfl, ⟨⟨b64sig, payload, base64, read, built⟩, logEntry,
      answered, sole⟩, leaf⟩
    simp only [findSignature, base64, read]
    exact findTlogEntry_eq_ok.mpr ⟨[proposed], logEntry, uuid, built, answered, sole, leaf⟩

/-- The inclusion proof of an entry verifies. -/
def IncludedInLog (p : Platform) (e : LogEntryAnon) : Prop :=
  ∃ verification proof rootHash logIndex treeSize body bytes,
    e.verification = some verification ∧ verification.inclusionProof = some proof ∧
    proof.rootHash = some rootHash ∧ proof.logIndex = some logIndex ∧
    proof.treeSize = some treeSize ∧ e.body = .str body ∧
    Base64.stdDecode body = some bytes ∧
    p.verifyInclusionProof logIndex treeSize (proof.hashes.map Hex.decodeString)
      (Hex.decodeString rootHash) (p.hashLeaf bytes) = none

/-- The signed entry timestamp of an entry verifies under the key of the log it names. -/
def TimestampSigned (p : Platform) (client : RekorClient) (e : LogEntryAnon) : Prop :=
  ∃ verification integratedTime logIndex logID keys pubKey,
    e.verification = some verification ∧ e.integratedTime = some integratedTime ∧
    e.logIndex = some logIndex ∧ e.logID = some logID ∧ tlogKeys p client = .ok keys ∧
    keys.lookup logID = some pubKey ∧
    verifySET p ⟨e.body, integratedTime, logIndex, logID⟩ verification.signedEntryTimestamp
      pubKey.pubKey = none

/-- The timestamp check passes exactly when it verifies under a trusted key. -/
theorem verifyEntrySET_eq_none {payload : RekorPayload} {set : Bytes} :
    verifyEntrySET p client payload set = none ↔
      ∃ keys pubKey, tlogKeys p client = .ok keys ∧
        keys.lookup payload.logID = some pubKey ∧
        verifySET p payload set pubKey.pubKey = none := by
  unfold verifyEntrySET
  cases tlogKeys p client with
  | error err => simp
  | ok keys =>
    cases found : keys.lookup payload.logID with
    | none => simp [found]
    | some pubKey => simp [found]

/-- `VerifyTLogEntry` passes exactly when inclusion proof and timestamp verify. -/
theorem verifyTLogEntry_eq_none :
    verifyTLogEntry p client e = .ok none ↔ IncludedInLog p e ∧ TimestampSigned p client e := by
  constructor
  · intro passed
    unfold verifyTLogEntry at passed
    split at passed
    · cases passed
    · rename_i verification verifiable
      split at passed
      · cases passed
      · rename_i proof proven
        obtain ⟨rootHash, root, passed⟩ := bind_eq_ok.mp passed
        obtain ⟨body, text, passed⟩ := bind_eq_ok.mp passed
        split at passed
        · cases passed
        · rename_i bytes decoded
          obtain ⟨logIndex, leaf, passed⟩ := bind_eq_ok.mp passed
          obtain ⟨treeSize, size, passed⟩ := bind_eq_ok.mp passed
          split at passed
          · cases passed
          · rename_i included
            obtain ⟨integratedTime, time, passed⟩ := bind_eq_ok.mp passed
            obtain ⟨index, position, passed⟩ := bind_eq_ok.mp passed
            obtain ⟨logID, log, passed⟩ := bind_eq_ok.mp passed
            rw [deref_eq_ok] at root leaf size time position log
            obtain ⟨keys, pubKey, trusted, found, signed⟩ :=
              verifyEntrySET_eq_none.mp (Except.ok.inj passed)
            exact ⟨⟨verification, proof, rootHash, logIndex, treeSize, body, bytes, verifiable,
              proven, root, leaf, size, assertString_eq_ok.mp text, decoded, included⟩,
              verification, integratedTime, index, logID, keys, pubKey, verifiable, time,
              position, log, trusted, found, signed⟩
  · rintro ⟨⟨verification, proof, rootHash, logIndex, treeSize, body, bytes, verifiable, proven,
      root, leaf, size, text, decoded, included⟩, verification', integratedTime, index, logID,
      keys, pubKey, verifiable', time, position, log, trusted, found, signed⟩
    cases verifiable.symm.trans verifiable'
    rw [text] at signed
    simp only [verifyTLogEntry, verifiable, proven, root, leaf, size, text, decoded, included,
      time, position, log, deref, assertString, bind, Except.bind, Except.ok.injEq]
    exact verifyEntrySET_eq_none.mpr ⟨keys, pubKey, trusted, found, signed⟩

/-- `tlogValidatePublicKey` passes exactly when the search finds an entry. -/
theorem tlogValidatePublicKey_eq_none {pub : PublicKey} :
    tlogValidatePublicKey p client pub sig = .ok none ↔
      ∃ e, findSignature p client sig (p.marshalPublicKeyToPEM pub) = .ok (.ok e) := by
  unfold tlogValidatePublicKey
  cases findSignature p client sig (p.marshalPublicKeyToPEM pub) with
  | error panic => simp [bind, Except.bind]
  | ok found => cases found <;> simp [bind, Except.bind]

/-- `tlogValidateCertificate` passes exactly when the search finds an entry that verifies and
whose integrated time the certificate covers. -/
theorem tlogValidateCertificate_eq_none :
    tlogValidateCertificate p client sig = .ok none ↔
      ∃ cert e integratedTime, sig.cert = .ok (some cert) ∧
        findSignature p client sig (p.marshalCertificateToPEM (some cert)) = .ok (.ok e) ∧
        verifyTLogEntry p client e = .ok none ∧ e.integratedTime = some integratedTime ∧
        cert.ValidAt (Time.unix integratedTime) := by
  constructor
  · intro passed
    unfold tlogValidateCertificate at passed
    split at passed
    · cases passed
    · rename_i cert certified
      obtain ⟨found, searched, passed⟩ := bind_eq_ok.mp passed
      cases found with
      | error err => cases passed
      | ok e =>
        obtain ⟨outcome, verified, passed⟩ := bind_eq_ok.mp passed
        cases outcome with
        | some err => cases passed
        | none =>
          obtain ⟨integratedTime, time, passed⟩ := bind_eq_ok.mp passed
          obtain ⟨cert, present, passed⟩ := bind_eq_ok.mp passed
          rw [deref_eq_ok] at time present
          subst present
          exact ⟨cert, e, integratedTime, certified, searched, verified, time,
            checkExpiry_eq_none.mp (Except.ok.inj passed)⟩
  · rintro ⟨cert, e, integratedTime, certified, searched, verified, time, valid⟩
    simp only [tlogValidateCertificate, certified, searched, verified, time, deref, bind,
      Except.bind, checkExpiry_eq_none.mpr valid]

end Cosign.Verif
