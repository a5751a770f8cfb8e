import Cosign.Verify.Bundle
import Cosign.Spec.LogEntry

/-!
# The entry that the bundle checks consult

`bundleHash` and `bundleSig` each decode the body of a bundle again. Both read the same entry,
`consulted`, except that an attestation is looked for among the in-toto entries only.
-/
namespace Cosign.Verif

open Cosign.Go Cosign.Encoding Cosign.Oci Cosign.Verify Cosign.Spec

variable {p : Platform} {body : String} {entry : LogEntry}

/-- The entry of a body in the order in which the kinds are tried. -/
def consulted (p : Platform) (attestation : Bool) (body : String) : Except GoError LogEntry :=
  match Base64.stdDecode body with
  | none => .error corruptInput
  | some bytes =>
    if attestation then
      match p.unmarshalIntoto bytes with
      | .error err => .error err
      | .ok spec => (p.unmarshalIntotoObj (Json.marshal spec)).map .intoto
    else match p.unmarshalRekord bytes with
      | .ok spec => (p.unmarshalRekordObj (Json.marshal spec)).map .rekord
      | .error _ =>
        match p.unmarshalHashedrekord bytes with
        | .error err => .error err
        | .ok spec => (p.unmarshalHashedrekordObj (Json.marshal spec)).map .hashedrekord

theorem consulted_reads {attestation : Bool} (found : consulted p attestation body = .ok entry) :
    Reads p body entry := by
  unfold consulted at found
  split at found
  · cases found
  · rename_i bytes decoded
    split at found
    · split at found
      · cases found
      · rename_i spec kind
        cases schema : p.unmarshalIntotoObj (Json.marshal spec) with
        | error err => simp [schema, Except.map] at found
        | ok obj =>
          simp only [schema, Except.map, Except.ok.injEq] at found
          exact found ▸ .intoto decoded kind schema
    · split at found
      · rename_i spec kind
        cases schema : p.unmarshalRekordObj (Json.marshal spec) with
        | error err => simp [schema, Except.map] at found
        | ok obj =>
          simp only [schema, Except.map, Except.ok.injEq] at found
          exact found ▸ .rekord decoded kind schema
      · split at found
        · cases found
        · rename_i spec kind
          cases schema : p.unmarshalHashedrekordObj (Json.marshal spec) with
          | error err => simp [schema, Except.map] at found
          | ok obj =>
            simp only [schema, Except.map, Except.ok.injEq] at found
            exact found ▸ .hashedrekord decoded kind schema

/-- The entry of a body that has a signature is the one that is consulted for a signature. -/
theorem consulted_of_reads (exclude : KindsExclude p) (reads : Reads p body entry)
    {recorded : EntrySignature} (signed : entry.signature = some recorded) :
    consulted p false body = .ok entry := by
  unfold consulted
  cases reads with
  | rekord decoded kind schema => simp [decoded, kind, schema, Except.map]
  | hashedrekord decoded kind schema =>
    rename_i bytes spec obj
    cases other : p.unmarshalRekord bytes with
    | ok spec' => exact absurd kind (exclude.rekord_hashedrekord _ _ _ other)
    | error err => simp [decoded, kind, schema, other, Except.map]
  | intoto decoded kind schema => cases signed

/-- Following the pointers to a hash returns exactly the hash of the entry. -/
theorem derefHash_eq_ok {recorded : String × String} :
    derefHash entry.hashPointer = .ok recorded ↔ entry.hash = some recorded := by
  unfold derefHash LogEntry.hash
  rcases entry.hashPointer with _ | _ | ⟨_ | algorithm, _ | value⟩ <;>
    simp [deref, bind, Except.bind]

theorem bundleHash_eq (signature : String) :
    bundleHash p body signature =
      match consulted p (signature.length == 0) body with
      | .error err => .ok ("", "", some err)
      | .ok entry => derefHash entry.hashPointer >>= fun recorded =>
          .ok (recorded.1, recorded.2, none) := by
  unfold bundleHash consulted
  cases Base64.stdDecode body with
  | none => rfl
  | some bytes =>
    by_cases attestation : signature.length = 0
    · simp only [attestation, beq_self_eq_true, if_true]
      cases p.unmarshalIntoto bytes with
      | error err => rfl
      | ok spec =>
        simp only [specHash, decodeSpec]
        cases p.unmarshalIntotoObj (Json.marshal spec) <;> rfl
    · simp only [attestation, beq_iff_eq, if_false]
      cases p.unmarshalRekord bytes with
      | ok spec =>
        simp only [specHash, decodeSpec]
        cases p.unmarshalRekordObj (Json.marshal spec) <;> rfl
      | error err =>
        cases p.unmarshalHashedrekord bytes with
        | error err => rfl
        | ok spec =>
          simp only [specHash, decodeSpec]
          cases p.unmarshalHashedrekordObj (Json.marshal spec) <;> rfl

/-- `bundleHash` returns exactly when the consulted entry, if any, has its hash behind set
pointers. -/
theorem returns_bundleHash {signature : String} :
    Returns (bundleHash p body signature) ↔
      ∀ entry, consulted p (signature.length == 0) body = .ok entry → entry.hash ≠ none := by
  rw [bundleHash_eq]
  cases consulted p (signature.length == 0) body with
  | error err => simp
  | ok entry =>
    simp only [returns_bind, derefHash_eq_ok, returns_ok, and_true, Except.ok.injEq,
      forall_eq', Option.ne_none_iff_exists']

/-- On a consulted entry, `bundleSig` is the signature of the entry. -/
theorem bundleSig_consulted (found : consulted p false body = .ok entry) :
    bundleSig p body = deref entry.signature >>= fun recorded =>
      .ok (.ok (Base64.stdEncode recorded.content)) := by
  unfold consulted at found
  unfold bundleSig
  cases decoded : Base64.stdDecode body with
  | none => simp [decoded] at found
  | some bytes =>
    simp only [decoded, Bool.false_eq_true, if_false] at found
    cases kind : p.unmarshalRekord bytes with
    | ok spec =>
      simp only [kind, specSig, decodeSpec] at found ⊢
      cases schema : p.unmarshalRekordObj (Json.marshal spec) with
      | error err => simp [schema, Except.map] at found
      | ok obj =>
        simp only [schema, Except.map, Except.ok.injEq] at found
        subst found
        rfl
    | error err =>
      cases other : p.unmarshalHashedrekord bytes with
      | error err => simp [kind, other] at found
      | ok spec =>
        simp only [kind, other, specSig, decodeSpec] at found ⊢
        cases schema : p.unmarshalHashedrekordObj (Json.marshal spec) with
        | error err => simp [schema, Except.map] at found
        | ok obj =>
          simp only [schema, Except.map, Except.ok.injEq] at found
          subst found
          rfl

theorem bundleSig_unread {err : GoError} (unread : consulted p false body = .error err) :
    ∃ err, bundleSig p body = .ok (.error err) := by
  unfold consulted at unread
  unfold bundleSig
  cases decoded : Base64.stdDecode body with
  | none => exact ⟨_, rfl⟩
  | some bytes =>
    simp only [decoded, Bool.false_eq_true, if_false] at unread
    cases kind : p.unmarshalRekord bytes with
    | ok spec =>
      simp only [kind, specSig, decodeSpec] at unread ⊢
      cases schema : p.unmarshalRekordObj (Json.marshal spec) with
      | error err => exact ⟨_, rfl⟩
      | ok obj => simp [schema, Except.map] at unread
    | error err =>
      cases other : p.unmarshalHashedrekord bytes with
      | error err => exact ⟨err, by simp only [kind, other]⟩
      | ok spec =>
        simp only [kind, other, specSig, decodeSpec] at unread ⊢
        cases schema : p.unmarshalHashedrekordObj (Json.marshal spec) with
        | error err => exact ⟨_, rfl⟩
        | ok obj => simp [schema, Except.map] at unread

/-- The signature of a layer agrees with the body of its bundle: it is empty, the entry has an
empty signature, or the two are equal. -/
def Agrees (p : Platform) (body signature : String) : Prop :=
  signature = "" ∨ ∃ entry recorded, consulted p false body = .ok entry ∧
    entry.signature = some recorded ∧
    (recorded.content = [] ∨ Base64.stdEncode recorded.content = signature)

/-- `compareSigs` finds no error exactly when the signatures agree. -/
theorem compareSigs_eq_none {sig : Signature} :
    compareSigs p body sig = .ok none ↔
      ∃ signature, sig.base64Signature = .ok signature ∧ Agrees p body signature := by
  unfold compareSigs Agrees
  cases sig.base64Signature with
  | error err => simp
  | ok actualSig =>
    simp only [Except.ok.injEq, exists_eq_left']
    by_cases blank : actualSig = ""
    · simp [blank]
    · simp only [blank, if_false, false_or]
      cases found : consulted p false body with
      | error err =>
        obtain ⟨failure, returned⟩ := bundleSig_unread found
        simp [returned, bind, Except.bind]
      | ok entry =>
        rw [bundleSig_consulted found]
        cases signed : entry.signature with
        | none => simp [deref, bind, Except.bind, signed]
        | some recorded =>
          simp only [deref, bind, Except.bind, Except.ok.injEq, exists_eq_left', signed,
            Option.some.injEq, exists_and_left, Base64.stdEncode_eq_empty]
          by_cases unsigned : recorded.content = []
          · simp [unsigned]
          · by_cases same : Base64.stdEncode recorded.content = actualSig <;>
              simp [unsigned, same]

/-- `compareSigs` returns exactly when the entry it consults, if any, has a signature. -/
theorem returns_compareSigs {sig : Signature} :
    Returns (compareSigs p body sig) ↔
      ∀ signature, sig.base64Signature = .ok signature → signature ≠ "" →
        ∀ entry, consulted p false body = .ok entry → entry.signature ≠ none := by
  unfold compareSigs
  cases sig.base64Signature with
  | error err => simp
  | ok actualSig =>
    by_cases blank : actualSig = ""
    · simp [blank]
    · simp only [Except.ok.injEq, forall_eq', blank, if_false, ne_eq, not_false_eq_true,
        forall_const]
      cases found : consulted p false body with
      | error err =>
        obtain ⟨failure, returned⟩ := bundleSig_unread found
        simp [returned, bind, Except.bind]
      | ok entry =>
        rw [bundleSig_consulted found]
        cases signed : entry.signature with
        | none => simp [deref, bind, Except.bind, signed]
        | some recorded =>
          simp only [deref, bind, Except.bind]
          split
          · simp [signed]
          · split <;> simp [signed]

end Cosign.Verif
