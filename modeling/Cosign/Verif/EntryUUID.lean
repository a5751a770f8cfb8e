import Cosign.Encoding.Hex
import Cosign.Verif.Sample
import Cosign.Verif.Tlog
import Cosign.Verify.LogClient

/-!
# The UUID of an entry of the log

`GetTlogEntry` and `FindTlogEntry` compare the leaf hash of an entry with the bytes that
`hex.DecodeString` returns for the UUID, and drop its error. So a UUID is accepted if it starts with
the encoding of the leaf hash and does not go on with two digits (`entry_uuid_exact_iff`).
-/
namespace Cosign.Verif

open Cosign.Go Cosign.Encoding Cosign.Verify

variable {p : Platform} {uuid : String} {e : LogEntryAnon}

/-- The leaf hash of an entry whose body is a text in base64. -/
def HasLeafHash (p : Platform) (e : LogEntryAnon) (hash : Bytes) : Prop :=
  ∃ body bytes, e.body = .str body ∧ Base64.stdDecode body = some bytes ∧ p.hashLeaf bytes = hash

/-- The UUID is the hexadecimal encoding of the leaf hash, in letters of either case. -/
def ExactUUID (p : Platform) (uuid : String) (e : LogEntryAnon) : Prop :=
  ∃ hash, HasLeafHash p e hash ∧ Hex.Encodes (runes uuid) hash

/-- The UUID starts with the encoding of the leaf hash, and does not go on with two digits. -/
def AcceptedUUID (p : Platform) (uuid : String) (e : LogEntryAnon) : Prop :=
  ∃ hash digits rest, HasLeafHash p e hash ∧ runes uuid = digits ++ rest ∧
    Hex.Encodes digits hash ∧ Hex.startsWithPair rest = false

theorem leafIs_iff : LeafIs p uuid e ↔ HasLeafHash p e (Hex.decodeString uuid) := Iff.rfl

theorem leafIs_iff_accepted : LeafIs p uuid e ↔ AcceptedUUID p uuid e := by
  rw [leafIs_iff]
  constructor
  · intro leaf
    obtain ⟨digits, rest, split, encodes, stops⟩ := Hex.exists_encodes (runes uuid)
    exact ⟨Hex.decodeString uuid, digits, rest, leaf, split, encodes, stops⟩
  · intro ⟨hash, digits, rest, leaf, split, encodes, stops⟩
    have decoded : Hex.decodeString uuid = hash :=
      Hex.decodePrefix_eq_iff.mpr ⟨digits, rest, split, encodes, stops⟩
    rw [decoded]
    exact leaf

/-- A UUID is the encoding of the leaf hash exactly when it is accepted and `hex.DecodeString`
returns no error for it. -/
theorem exactUUID_iff :
    ExactUUID p uuid e ↔ AcceptedUUID p uuid e ∧ Hex.malformed (runes uuid) = false := by
  rw [← leafIs_iff_accepted, leafIs_iff]
  constructor
  · intro ⟨hash, leaf, encodes⟩
    have decoded : Hex.decodePrefix (runes uuid) = hash :=
      Hex.decodePrefix_eq_iff.mpr ⟨runes uuid, [], by rw [List.append_nil], encodes, rfl⟩
    rw [← Hex.encodes_decodePrefix_iff, Hex.decodeString, decoded]
    exact ⟨leaf, encodes⟩
  · intro ⟨leaf, wellFormed⟩
    exact ⟨Hex.decodeString uuid, leaf, Hex.encodes_decodePrefix_iff.mpr wellFormed⟩

/-- What `GetTlogEntry` returns: the first entry of the answer, if its UUID is the one that was
asked for and is its leaf hash. -/
theorem getTlogEntry_eq_ok {client : LogClient} {request : Nat} :
    getTlogEntry p client request uuid = .ok (.ok e) ↔
      ∃ payload, client.getLogEntryByUUID request uuid = .ok payload ∧
        payload.entries.head? = some ⟨uuid, e⟩ ∧ LeafIs p uuid e := by
  constructor
  · intro found
    unfold getTlogEntry at found
    split at found
    · cases found
    · rename_i payload answered
      split at found
      · cases found
      · rename_i key entry others listed
        split at found
        · cases found
        · rename_i same
          obtain ⟨err, verified, found⟩ := bind_eq_ok.mp found
          cases err with
          | some err => cases found
          | none =>
            cases found
            cases not_not.mp same
            exact ⟨payload, answered, by rw [listed]; rfl, verifyUUID_eq_none.mp verified⟩
  · intro ⟨payload, answered, first, leaf⟩
    obtain ⟨others, listed⟩ := List.head?_eq_some_iff.mp first
    simp [getTlogEntry, answered, listed, verifyUUID_eq_none.mpr leaf, bind, Except.bind]

/-- **The UUIDs under which an entry is returned, and those that are exact.** `GetTlogEntry` and
`FindTlogEntry` return an entry exactly when its UUID starts with the encoding of its leaf hash and
does not go on with two digits. The UUID is just that encoding exactly when, besides,
`hex.DecodeString` returns no error for it. -/
theorem entry_uuid_exact_iff (p : Platform) :
    (∀ (client : LogClient) (request : Nat) (uuid : String) (e : LogEntryAnon),
      getTlogEntry p client request uuid = .ok (.ok e) ↔
        ∃ payload, client.getLogEntryByUUID request uuid = .ok payload ∧
          payload.entries.head? = some ⟨uuid, e⟩ ∧ AcceptedUUID p uuid e) ∧
    (∀ (client : RekorClient) (b64Sig : String) (payload pubKey : Bytes) (e : LogEntryAnon),
      findTlogEntry p client b64Sig payload pubKey = .ok (.ok e) ↔
        ∃ proposed logEntry uuid, proposedEntry p b64Sig payload pubKey = .ok proposed ∧
          client.searchLogQuery proposed = .ok [logEntry] ∧ logEntry.entries = [⟨uuid, e⟩] ∧
          AcceptedUUID p uuid e) ∧
    ∀ (uuid : String) (e : LogEntryAnon),
      ExactUUID p uuid e ↔ AcceptedUUID p uuid e ∧ Hex.malformed (runes uuid) = false := by
  refine ⟨fun client request uuid e => ?_, fun client b64Sig payload pubKey e => ?_,
    fun uuid e => exactUUID_iff⟩
  · simp only [← leafIs_iff_accepted]
    exact getTlogEntry_eq_ok
  · simp only [← leafIs_iff_accepted]
    exact findTlogEntry_eq_ok

/-- The leaf hash of the empty entry in hexadecimal digits, and two letters that are none. -/
def trailingUUID : String := Hex.encodeToString sampleEmptyLeaf ++ "zz"

/-- An entry with an empty body. -/
def emptyBodyEntry : LogEntryAnon where
  body := .str ""
  integratedTime := none
  logIndex := none
  logID := none
  verification := none

/-- A log that holds the entry under that UUID. -/
def trailingLog : LogClient where
  searchLogQuery _ := .ok [AList.singleton trailingUUID emptyBodyEntry]
  getPublicKey := .ok ""
  searchIndex _ := .ok []
  getLogEntryByUUID _ uuid := .ok (AList.singleton uuid emptyBodyEntry)
  createLogEntry _ := .error (.conflict trailingUUID)

/-- An entry is returned under a UUID that goes on with letters that are no digits. -/
theorem trailing_letters_accepted :
    getTlogEntry samplePlatform trailingLog 0 trailingUUID = .ok (.ok emptyBodyEntry) ∧
      findTlogEntry samplePlatform trailingLog.toRekorClient "" [] [] =
        .ok (.ok emptyBodyEntry) ∧
      ¬ExactUUID samplePlatform trailingUUID emptyBodyEntry := by
  refine ⟨rfl, rfl, fun exact => ?_⟩
  have wellFormed := (exactUUID_iff.mp exact).2
  revert wellFormed
  decide

end Cosign.Verif
