import Cosign.Encoding.JsonText
import Cosign.Spec.Rounds
import Cosign.Verif.KeyLookup

/-!
# Signatures of a root policy over signing rounds

A successful call of `AddOrUpdateSignature` puts its signature in the place of those with the key id
that the lookup returned, and a failed call changes nothing. So the signatures are the latest of
each key id (`addAll_signatures`), and the latest of each signer exactly when the lookup returned
one id for every signer (`one_signature_each_iff`), which a root with two keys for a signer does not
ensure.
-/
namespace Cosign.Verif

open Cosign.Go Cosign.Encoding Cosign.Sign Cosign.Tuf Cosign.Spec

variable {call : SigningCall} {signed : Bytes} {before : List SigningCall} {entry : Added}

/-- A call of `AddOrUpdateSignature`, with the order that its loop over the root keys takes. -/
structure SigningCall where
  /-- Order of the loop over the root keys. -/
  order : RangeOrder (Option Key)
  /-- Key of the signer. -/
  key : Option Key
  /-- The signature, without its key id. -/
  signature : Signature

/-- A signature that a successful call added, and who signed. -/
structure Added where
  /-- Who signed. -/
  signer : FulcioKeyVal
  /-- The signature with the key id that was looked up. -/
  signature : Signature

namespace Added

/-- The key id that was looked up. -/
def keyID (entry : Added) : String := entry.signature.keyID

end Added

variable {times : TimeCodec}

namespace SigningCall

/-- Make the call. -/
def run (times : TimeCodec) (call : SigningCall) (s : Signed) : Call (Signed × Option GoError) :=
  s.addOrUpdateSignature times call.order call.key call.signature

/-- What the call adds to the signatures of a policy, if it succeeds. -/
def added (times : TimeCodec) (signed : Bytes) (call : SigningCall) : Option Added :=
  match Root.unmarshal times signed with
  | .error _ => none
  | .ok root =>
    match getFulcioKeyVal call.key, root.validKey call.order call.key "root" with
    | .ok (.ok signer), .ok (.ok keyID) => some ⟨signer, { call.signature with keyID }⟩
    | _, _ => none

end SigningCall

/-- Make some calls one after another, whether they fail or not. -/
def addAll (times : TimeCodec) (s : Signed) (calls : List SigningCall) : Call Signed :=
  calls.foldlM (fun s call => (call.run times s).map Prod.fst) s

/-- The signatures that some calls add, in the order of the calls. -/
def made (times : TimeCodec) (signed : Bytes) (calls : List SigningCall) : List Added :=
  calls.filterMap (SigningCall.added times signed)

/-- The signatures that are held after some calls, with who made them. -/
def signatureLog (times : TimeCodec) (signed : Bytes) (calls : List SigningCall) : List Added :=
  latest Added.keyID (made times signed calls)

/-! ## One call -/

theorem validKey_parsable {root : Root} {order : RangeOrder (Option Key)} {key : Option Key}
    {role id : String} (valid : root.validKey order key role = .ok (.ok id)) :
    ∃ signer, getFulcioKeyVal key = .ok (.ok signer) := by
  unfold Root.validKey at valid
  have ⟨read, reads, goesOn⟩ := bind_eq_ok.mp valid
  cases read with
  | ok signer => exact ⟨signer, reads⟩
  | error err => cases goesOn

/-- A call adds its signature in the place of those with its key id, or it fails and changes
nothing. -/
theorem run_cases {s next : Signed} {err : Option GoError}
    (returned : call.run times s = .ok (next, err)) :
    (∃ entry, call.added times s.signed = some entry ∧ err = none ∧
      next = ⟨s.signed, replace Signature.keyID s.signatures entry.signature⟩) ∨
    (call.added times s.signed = none ∧ err ≠ none ∧ next = s) := by
  unfold SigningCall.run Signed.addOrUpdateSignature at returned
  unfold SigningCall.added
  cases decoded : Root.unmarshal times s.signed with
  | error cause =>
    rw [decoded] at returned
    cases returned
    exact .inr ⟨rfl, nofun, rfl⟩
  | ok root =>
    rw [decoded] at returned
    have ⟨looked, valid, goesOn⟩ := bind_eq_ok.mp returned
    cases looked with
    | error cause =>
      cases goesOn
      refine .inr ⟨?_, nofun, rfl⟩
      dsimp only
      rw [valid]
      split
      · rename_i succeeds
        cases succeeds
      · rfl
    | ok keyID =>
      cases goesOn
      have ⟨signer, reads⟩ := validKey_parsable valid
      refine .inl ⟨⟨signer, { call.signature with keyID }⟩, ?_, rfl, rfl⟩
      dsimp only
      rw [valid, reads]

/-! ## A run -/

theorem replace_signature (log : List Added) (entry : Added) :
    replace Signature.keyID (log.map Added.signature) entry.signature =
      (replace Added.keyID log entry).map Added.signature := by
  unfold replace
  rw [List.filter_map, List.map_append]
  rfl

theorem signatureLog_added (adds : call.added times signed = some entry) :
    signatureLog times signed (before ++ [call]) =
      replace Added.keyID (signatureLog times signed before) entry := by
  unfold signatureLog made
  rw [List.filterMap_append, ← latest_concat]
  simp [adds]

theorem signatureLog_failed (fails : call.added times signed = none) :
    signatureLog times signed (before ++ [call]) = signatureLog times signed before := by
  unfold signatureLog made
  rw [List.filterMap_append]
  simp [fails]

theorem addAll_concat {s final : Signed} :
    addAll times s (before ++ [call]) = .ok final ↔
      ∃ middle err, addAll times s before = .ok middle ∧
        call.run times middle = .ok (final, err) := by
  unfold addAll
  rw [List.foldlM_append, bind_eq_ok]
  constructor
  · intro ⟨middle, first, last⟩
    rw [List.foldlM_cons] at last
    have ⟨after, mapped, ends⟩ := bind_eq_ok.mp last
    cases ends
    cases returned : call.run times middle with
    | error panic =>
      rw [returned] at mapped
      cases mapped
    | ok result =>
      rw [returned] at mapped
      cases mapped
      exact ⟨middle, result.2, first, returned⟩
  · intro ⟨middle, err, first, last⟩
    refine ⟨middle, first, ?_⟩
    rw [List.foldlM_cons, last]
    rfl

/-- After any calls the policy is the same and its signatures are the latest of each key id. -/
theorem addAll_signatures {calls : List SigningCall} {final : Signed}
    (ran : addAll times ⟨signed, []⟩ calls = .ok final) :
    final = ⟨signed, (signatureLog times signed calls).map Added.signature⟩ := by
  induction calls using List.reverseRecOn generalizing final with
  | nil =>
    cases ran
    rfl
  | append_singleton before call ih =>
    have ⟨middle, err, first, last⟩ := addAll_concat.mp ran
    have held := ih first
    subst held
    cases run_cases last with
    | inl succeeds =>
      have ⟨entry, adds, _, result⟩ := succeeds
      rw [result, signatureLog_added adds, ← replace_signature]
    | inr fails =>
      rw [fails.2.2, signatureLog_failed fails.1]

/-- An entry keeps those of other signers, in their order, if it shares a key id with none of
them. -/
theorem replace_keeps_others {log : List Added}
    (apart : ∀ other ∈ log, other.keyID = entry.keyID → other.signer = entry.signer) :
    (replace Added.keyID log entry).filter (fun other => other.signer ≠ entry.signer) =
      log.filter (fun other => other.signer ≠ entry.signer) := by
  unfold replace
  rw [List.filter_append, List.filter_filter]
  have own : [entry].filter (fun other => other.signer ≠ entry.signer) = [] := by simp
  rw [own, List.append_nil]
  apply List.filter_congr
  intro other listed
  by_cases same : other.signer = entry.signer
  · simp [same]
  · have different : other.keyID ≠ entry.keyID := fun shared => same (apart other listed shared)
    simp [same, different]

/-- The latest of each key id are the latest of each signer exactly when every signer has one
key id, if no key id has two signers. -/
theorem latest_signers_iff {entries : List Added}
    (distinct : ∀ left ∈ entries, ∀ right ∈ entries,
      left.keyID = right.keyID → left.signer = right.signer) :
    (latest Added.keyID entries).map Added.signature =
        (latest Added.signer entries).map Added.signature ↔
      ∀ left ∈ entries, ∀ right ∈ entries,
        left.signer = right.signer → left.keyID = right.keyID := by
  constructor
  · intro same left inLeft right inRight shared
    -- each of the two key ids is that of a latest entry, so one of a latest entry of its signer
    have latestOf {entry : Added} (listed : entry ∈ entries) :
        ∃ last ∈ latest Added.signer entries, last.keyID = entry.keyID ∧
          last.signer = entry.signer := by
      have ⟨last, inLast, agrees⟩ : ∃ last ∈ latest Added.keyID entries,
          last.keyID = entry.keyID := exists_mem_latest listed
      have held : last.signature ∈ (latest Added.signer entries).map Added.signature :=
        same ▸ List.mem_map.mpr ⟨last, inLast, rfl⟩
      have ⟨other, inOther, copied⟩ := List.mem_map.mp held
      have ids : other.keyID = entry.keyID := by
        rw [← agrees, Added.keyID, Added.keyID, copied]
      exact ⟨other, inOther, ids, distinct other (mem_of_mem_latest inOther) entry listed ids⟩
    have ⟨first, inFirst, firstID, firstSigner⟩ := latestOf inLeft
    have ⟨second, inSecond, secondID, secondSigner⟩ := latestOf inRight
    have one : first = second := latest_unique inFirst inSecond
      (firstSigner.trans (shared.trans secondSigner.symm))
    rw [← firstID, ← secondID, one]
  · intro one
    rw [latest_congr fun left inLeft right inRight =>
      ⟨distinct left inLeft right inRight, one left inLeft right inRight⟩]

/-- What one call after others does: if it fails it changes nothing, and if it succeeds the
signatures of other signers stay, in their order. -/
def KeepsOthers (times : TimeCodec) (signed : Bytes) (before : List SigningCall)
    (call : SigningCall) : Prop :=
  ∃ s next err, addAll times ⟨signed, []⟩ before = .ok s ∧ call.run times s = .ok (next, err) ∧
    (err ≠ none → next = s) ∧
    (err = none → ∃ entry, call.added times signed = some entry ∧
      s.signatures = (signatureLog times signed before).map Added.signature ∧
      next.signatures = (signatureLog times signed (before ++ [call])).map Added.signature ∧
      (signatureLog times signed (before ++ [call])).filter
          (fun other => other.signer ≠ entry.signer) =
        (signatureLog times signed before).filter (fun other => other.signer ≠ entry.signer))

theorem addAll_cons {s next : Signed} {err : Option GoError} {after : List SigningCall}
    (returned : call.run times s = .ok (next, err)) :
    addAll times s (call :: after) = addAll times next after := by
  unfold addAll
  rw [List.foldlM_cons, returned]
  rfl

theorem addAll_prefix {s final : Signed} {before after : List SigningCall}
    (ran : addAll times s (before ++ after) = .ok final) :
    ∃ middle, addAll times s before = .ok middle := by
  unfold addAll at ran
  rw [List.foldlM_append] at ran
  have ⟨middle, first, _⟩ := bind_eq_ok.mp ran
  exact ⟨middle, first⟩

/-- Every call of a run keeps the signatures of others, if no key id has two signers. -/
theorem keepsOthers_of_run {before after : List SigningCall}
    {final : Signed} (ran : addAll times ⟨signed, []⟩ (before ++ call :: after) = .ok final)
    (distinct : ∀ left ∈ made times signed (before ++ call :: after),
      ∀ right ∈ made times signed (before ++ call :: after),
        left.keyID = right.keyID → left.signer = right.signer) :
    KeepsOthers times signed before call := by
  have regrouped : addAll times ⟨signed, []⟩ ((before ++ [call]) ++ after) = .ok final := by
    rw [List.append_assoc]
    exact ran
  have ⟨next, partly⟩ := addAll_prefix regrouped
  have ⟨s, err, first, last⟩ := addAll_concat.mp partly
  have held := addAll_signatures first
  refine ⟨s, next, err, first, last, ?_, ?_⟩
  · intro failed
    cases run_cases last with
    | inl succeeds =>
      have ⟨_, _, succeeded, _⟩ := succeeds
      exact absurd succeeded failed
    | inr fails => exact fails.2.2
  · intro succeeded
    have kept : s.signed = signed := by rw [held]
    cases run_cases last with
    | inr fails => exact absurd succeeded fails.2.1
    | inl succeeds =>
      have ⟨entry, adds, _, _⟩ := succeeds
      rw [kept] at adds
      refine ⟨entry, adds, by rw [held], by rw [addAll_signatures partly], ?_⟩
      rw [signatureLog_added adds]
      apply replace_keeps_others
      intro other listed shared
      have earlier : other ∈ made times signed before := mem_of_mem_latest listed
      apply distinct other _ entry _ shared
      · unfold made at earlier ⊢
        rw [List.filterMap_append]
        exact List.mem_append_left _ earlier
      · unfold made
        exact List.mem_filterMap.mpr ⟨call, by simp, adds⟩

/-- A key id that was looked up is one that the signer is entitled to. -/
theorem entitled_of_made {calls : List SigningCall} {root : Root}
    (decoded : Root.unmarshal times signed = .ok root) (inside : entry ∈ made times signed calls) :
    Entitled root "root" entry.signer entry.keyID := by
  have ⟨call, _, adds⟩ := List.mem_filterMap.mp inside
  unfold SigningCall.added at adds
  rw [decoded] at adds
  dsimp only at adds
  split at adds
  · rename_i signer keyID parsable valid
    cases adds
    exact validKey_entitled parsable valid
  · cases adds

/-- **One signature for each signer.** After any calls in which no key id was looked up for two
signers: the signatures are those of the last successful call of each signer if and only if one key
id was looked up for every signer, which a root with at most one listed key for each signer ensures.
A failed call changed nothing, and a successful one kept the signatures of other signers in their
order. -/
theorem one_signature_each_iff (times : TimeCodec) (signed : Bytes) (calls : List SigningCall)
    (final : Signed) (ran : addAll times ⟨signed, []⟩ calls = .ok final)
    (distinct : ∀ left ∈ made times signed calls, ∀ right ∈ made times signed calls,
      left.keyID = right.keyID → left.signer = right.signer) :
    (final.signatures = (latest Added.signer (made times signed calls)).map Added.signature ↔
      ∀ left ∈ made times signed calls, ∀ right ∈ made times signed calls,
        left.signer = right.signer → left.keyID = right.keyID) ∧
    (∀ root, Root.unmarshal times signed = .ok root →
      (∀ signer id other, Entitled root "root" signer id → Entitled root "root" signer other →
        id = other) →
      ∀ left ∈ made times signed calls, ∀ right ∈ made times signed calls,
        left.signer = right.signer → left.keyID = right.keyID) ∧
    ∀ before call after, calls = before ++ call :: after →
      KeepsOthers times signed before call := by
  refine ⟨?_, ?_, ?_⟩
  · rw [addAll_signatures ran]
    exact latest_signers_iff distinct
  · intro root decoded single left leftMade right rightMade same
    apply single left.signer _ _ (entitled_of_made decoded leftMade)
    rw [same]
    exact entitled_of_made decoded rightMade
  · intro before call after split
    subst split
    exact keepsOthers_of_run ran distinct

/-! ## A signer with two root keys -/

/-- Times by their texts. -/
def textTimes : TimeCodec where
  read
    | .str text => .ok text
    | _ => .error ⟨"parsing time: not a text"⟩
  zero := "0001-01-01T00:00:00Z"
  rereads _ _ _ := rfl
  zeroReads := rfl

/-- A root key in a policy. -/
def keyTree (scheme : String) (val : FulcioKeyVal) : Json :=
  .obj [("keytype", .str keyTypeFulcio), ("scheme", .str scheme), ("keyval", .obj
    [("identity", .str val.identity), ("issuer", .str val.issuer)])]

/-- A policy with two keys of one signer, both listed. -/
def twoKeyTree : Json :=
  .obj [("_type", .str "root"), ("expires", .str "2022-09-01T00:00:00Z"),
    ("keys", .obj [("k1", keyTree keySchemeFulcio maintainer),
      ("k2", keyTree "https://fulcio.example.com" maintainer)]),
    ("roles", .obj [("root", .obj [("keyids", .arr [.str "k1", .str "k2"])])])]

/-- The text of the policy. -/
def twoKeyPolicy : Bytes := Json.marshal twoKeyTree

/-- The root that the policy is. -/
def twoKeyRoot : Root :=
  let key (scheme : String) : Key := ⟨keyTypeFulcio, scheme, [], some (.obj
    [("identity", .str maintainer.identity), ("issuer", .str maintainer.issuer)])⟩
  ⟨"root", "", 0, "2022-09-01T00:00:00Z",
    (AList.singleton "k1" (some (key keySchemeFulcio))).insert "k2"
      (some (key "https://fulcio.example.com")),
    AList.singleton "root" (some ⟨["k1", "k2"], 0⟩), "", false⟩

theorem unmarshal_twoKeyPolicy : Root.unmarshal textTimes twoKeyPolicy = .ok twoKeyRoot := by
  have writable : Json.Writable Json.maxNestingDepth twoKeyTree := by
    simp [twoKeyTree, keyTree, Json.Writable, Json.WritableElements, Json.WritableMembers,
      Json.maxNestingDepth]
  unfold Root.unmarshal twoKeyPolicy
  rw [unmarshal_marshal writable]
  rfl

/-- The signer signs, and the loop meets a given key first. -/
def signFirst (id signature : String) : SigningCall :=
  ⟨.startAt id, some maintainerSignerKey, ⟨"", signature, ""⟩⟩

section TwoKeys

variable {id signature : String} (either : id = "k1" ∨ id = "k2")

include either in
theorem validKey_twoKeyRoot :
    twoKeyRoot.validKey (.startAt id) (some maintainerSignerKey) "root" = .ok (.ok id) := by
  cases either with
  | inl first => subst first; rfl
  | inr second => subst second; rfl

include either in
/-- A call adds the signature under the key that its loop meets first. -/
theorem added_signFirst :
    (signFirst id signature).added textTimes twoKeyPolicy =
      some ⟨maintainer, ⟨id, signature, ""⟩⟩ := by
  unfold SigningCall.added signFirst
  rw [unmarshal_twoKeyPolicy]
  dsimp only
  rw [validKey_twoKeyRoot either, maintainerSignerKey_reads]

include either in
theorem run_signFirst (signatures : List Signature) :
    (signFirst id signature).run textTimes ⟨twoKeyPolicy, signatures⟩ =
      .ok (⟨twoKeyPolicy, signatures.filter (fun sig => sig.keyID ≠ id) ++ [⟨id, signature, ""⟩]⟩,
        none) := by
  unfold SigningCall.run Signed.addOrUpdateSignature signFirst
  dsimp only
  rw [unmarshal_twoKeyPolicy]
  dsimp only
  rw [validKey_twoKeyRoot either]
  rfl

end TwoKeys

/-- A signer that signs twice while the loop meets one key first has one signature, the later. -/
theorem one_signature_each_iff_same :
    addAll textTimes ⟨twoKeyPolicy, []⟩ [signFirst "k1" "one", signFirst "k1" "two"] =
        .ok ⟨twoKeyPolicy, [⟨"k1", "two", ""⟩]⟩ ∧
      [⟨"k1", "two", ""⟩] = (latest Added.signer (made textTimes twoKeyPolicy
        [signFirst "k1" "one", signFirst "k1" "two"])).map Added.signature := by
  have ran : addAll textTimes ⟨twoKeyPolicy, []⟩ [signFirst "k1" "one", signFirst "k1" "two"] =
      .ok ⟨twoKeyPolicy, [⟨"k1", "two", ""⟩]⟩ := by
    rw [addAll_cons (run_signFirst (.inl rfl) _), addAll_cons (run_signFirst (.inl rfl) _)]
    rfl
  have both : made textTimes twoKeyPolicy [signFirst "k1" "one", signFirst "k1" "two"] =
      [⟨maintainer, ⟨"k1", "one", ""⟩⟩, ⟨maintainer, ⟨"k1", "two", ""⟩⟩] := by
    simp [made, added_signFirst]
  refine ⟨ran, ?_⟩
  apply (one_signature_each_iff textTimes twoKeyPolicy _ _ ran ?_).1.mpr
  · rw [both]
    decide
  · rw [both]
    decide

/-- A signer that signs twice while the loop meets one key first and then the other has two
signatures. -/
theorem two_signatures_of_one_signer :
    addAll textTimes ⟨twoKeyPolicy, []⟩ [signFirst "k1" "one", signFirst "k2" "two"] =
        .ok ⟨twoKeyPolicy, [⟨"k1", "one", ""⟩, ⟨"k2", "two", ""⟩]⟩ ∧
      made textTimes twoKeyPolicy [signFirst "k1" "one", signFirst "k2" "two"] =
        [⟨maintainer, ⟨"k1", "one", ""⟩⟩, ⟨maintainer, ⟨"k2", "two", ""⟩⟩] := by
  constructor
  · rw [addAll_cons (run_signFirst (.inl rfl) _), addAll_cons (run_signFirst (.inr rfl) _)]
    rfl
  · simp [made, added_signFirst]

end Cosign.Verif
