import Cosign.Verify.Tlog

/-!
# Calls of a Rekor client

The commands on blobs and the signers also search the Rekor server by hash, fetch by UUID and create
entries. The server may answer the same request differently each time, so its answers are also a
function of the number of the request.
-/
namespace Cosign.Verify

open Cosign.Go Cosign.Encoding Cosign.Oci

/-- Why an entry was not created. -/
inductive CreateFailure where
  /-- `CreateLogEntryConflict`: the entry is in the log already, at this location. -/
  | conflict (location : String)
  /-- Another error. -/
  | other (err : GoError)
  deriving DecidableEq, Repr

/-- A `client.Rekor`, by what the server answers. -/
structure LogClient extends RekorClient where
  /-- `Index.SearchIndex` of a hash: the UUIDs of entries. -/
  searchIndex : String → Except GoError (List String)
  /-- `Entries.GetLogEntryByUUID`, at the given request: a map from UUID to entry. -/
  getLogEntryByUUID : Nat → String → Except GoError (GoMap LogEntryAnon)
  /-- `Entries.CreateLogEntry`: a map from UUID to entry. -/
  createLogEntry : ProposedEntry → Except CreateFailure (GoMap LogEntryAnon)

/-- `GetTlogEntry`, as the given request: the first entry of the answer, if it is the one that
was asked for and its UUID is its leaf hash. -/
def getTlogEntry (p : Platform) (rekorClient : LogClient) (request : Nat) (uuid : String) :
    Call (Except GoError LogEntryAnon) :=
  match rekorClient.getLogEntryByUUID request uuid with
  | .error err => .ok (.error err)
  | .ok payload =>
    match payload.entries with
    | [] => .ok (.error ⟨"empty response"⟩)
    | ⟨key, e⟩ :: _ =>
      if key ≠ uuid then .ok (.error ⟨"unexpected entry returned from rekor server"⟩)
      else do
        match ← verifyUUID p key e with
        | some err => .ok (.error err)
        | none => .ok (.ok e)

/-- `FindTLogEntriesByPayload`. -/
def findTLogEntriesByPayload (p : Platform) (rekorClient : LogClient) (payload : Bytes) :
    Except GoError (List String) :=
  rekorClient.searchIndex ("sha256:" ++ Hex.encodeToString (p.sha256 payload))

/-- The last element of `strings.Split(location, "/")`. -/
def lastSegment (location : String) : String :=
  String.ofList (location.toList.reverse.takeWhile (· != '/')).reverse

/-- `doUpload`. An entry that is in the log already is fetched and checked; the entry of a
successful answer is returned as it is. -/
def doUpload (p : Platform) (rekorClient : LogClient) (pe : ProposedEntry) :
    Call (Except GoError LogEntryAnon) :=
  match rekorClient.createLogEntry pe with
  | .error (.conflict location) => do
    match ← getTlogEntry p rekorClient 0 (lastSegment location) with
    | .error err => .ok (.error err)
    | .ok e =>
      match ← verifyTLogEntry p rekorClient.toRekorClient e with
      | some err => .ok (.error err)
      | none => .ok (.ok e)
  | .error (.other err) => .ok (.error err)
  | .ok payload =>
    match payload.entries with
    | [] => .ok (.error ⟨"bad response from server"⟩)
    | ⟨_, e⟩ :: _ => .ok (.ok e)

/-- `rekorEntry`. -/
def rekorEntry (p : Platform) (payload signature pubKey : Bytes) : ProposedEntry :=
  .hashedrekord "sha256" (Hex.encodeToString (p.sha256 payload)) signature pubKey

/-- `TLogUpload`. -/
def tLogUpload (p : Platform) (rekorClient : LogClient) (signature payload pemBytes : Bytes) :
    Call (Except GoError LogEntryAnon) :=
  doUpload p rekorClient (rekorEntry p payload signature pemBytes)

/-- `EntryToBundle`: no bundle for an entry without proofs; of the others every field is
followed through its pointer. -/
def entryToBundle (entry : LogEntryAnon) : Call (Option RekorBundle) :=
  match entry.verification with
  | none => .ok none
  | some verification => do
    let integratedTime ← deref entry.integratedTime
    let logIndex ← deref entry.logIndex
    let logID ← deref entry.logID
    .ok (some ⟨verification.signedEntryTimestamp, ⟨entry.body, integratedTime, logIndex, logID⟩⟩)

end Cosign.Verify
