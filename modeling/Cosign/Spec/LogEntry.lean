import Cosign.Verify.Platform

/-!
# Entries of the transparency log

What it means that the body of a log entry records a payload, a signature or a key. A body is the
base64 text of one of three kinds of entry. That the kinds exclude each other (`KindsExclude`) makes
the entry of a body unique (`Reads.unique`), whatever order they are tried in.
-/
namespace Cosign.Spec

open Cosign.Go Cosign.Encoding Cosign.Oci Cosign.Verify

/-- An entry of the log, decoded as the schema of its kind. -/
inductive LogEntry where
  /-- A rekord entry. -/
  | rekord (obj : RekordObj)
  /-- A hashedrekord entry. -/
  | hashedrekord (obj : RekordObj)
  /-- An in-toto entry. -/
  | intoto (obj : IntotoObj)
  deriving DecidableEq, Repr

namespace LogEntry

/-- The hash of the entry behind the pointers of its schema. -/
def hashPointer : LogEntry → Option (Option EntryHash)
  | .rekord obj => obj.data
  | .hashedrekord obj => obj.data
  | .intoto obj => obj.content

/-- The algorithm and the value of the hash, when every pointer to them is set. -/
def hash (entry : LogEntry) : Option (String × String) := do
  let data ← entry.hashPointer
  let found ← data
  let algorithm ← found.algorithm
  let value ← found.value
  some (algorithm, value)

/-- The signature of the entry, when it has one. -/
def signature : LogEntry → Option EntrySignature
  | .rekord obj => obj.signature
  | .hashedrekord obj => obj.signature
  | .intoto _ => none

end LogEntry

/-- The body of a log entry decodes to an entry. -/
inductive Reads (p : Platform) (body : String) : LogEntry → Prop
  /-- The body is a rekord entry. -/
  | rekord {bytes : Bytes} {spec : Json} {obj : RekordObj} :
      Base64.stdDecode body = some bytes → p.unmarshalRekord bytes = .ok spec →
      p.unmarshalRekordObj (Json.marshal spec) = .ok obj → Reads p body (.rekord obj)
  /-- The body is a hashedrekord entry. -/
  | hashedrekord {bytes : Bytes} {spec : Json} {obj : RekordObj} :
      Base64.stdDecode body = some bytes → p.unmarshalHashedrekord bytes = .ok spec →
      p.unmarshalHashedrekordObj (Json.marshal spec) = .ok obj →
      Reads p body (.hashedrekord obj)
  /-- The body is an in-toto entry. -/
  | intoto {bytes : Bytes} {spec : Json} {obj : IntotoObj} :
      Base64.stdDecode body = some bytes → p.unmarshalIntoto bytes = .ok spec →
      p.unmarshalIntotoObj (Json.marshal spec) = .ok obj → Reads p body (.intoto obj)

/-- The models fail on an entry of another kind. -/
structure KindsExclude (p : Platform) : Prop where
  /-- No rekord entry is a hashedrekord entry. -/
  rekord_hashedrekord : ∀ bytes spec other, p.unmarshalRekord bytes = .ok spec →
    p.unmarshalHashedrekord bytes ≠ .ok other
  /-- No rekord entry is an in-toto entry. -/
  rekord_intoto : ∀ bytes spec other, p.unmarshalRekord bytes = .ok spec →
    p.unmarshalIntoto bytes ≠ .ok other
  /-- No hashedrekord entry is an in-toto entry. -/
  hashedrekord_intoto : ∀ bytes spec other, p.unmarshalHashedrekord bytes = .ok spec →
    p.unmarshalIntoto bytes ≠ .ok other

/-- A body decodes to at most one entry. -/
theorem Reads.unique {p : Platform} {body : String} {entry other : LogEntry}
    (exclude : KindsExclude p) (first : Reads p body entry) (second : Reads p body other) :
    entry = other := by
  cases first with
  | rekord decoded kind schema =>
    cases second with
    | rekord decoded' kind' schema' => grind
    | hashedrekord decoded' kind' schema' =>
      cases decoded.symm.trans decoded'
      exact absurd kind' (exclude.rekord_hashedrekord _ _ _ kind)
    | intoto decoded' kind' schema' =>
      cases decoded.symm.trans decoded'
      exact absurd kind' (exclude.rekord_intoto _ _ _ kind)
  | hashedrekord decoded kind schema =>
    cases second with
    | rekord decoded' kind' schema' =>
      cases decoded.symm.trans decoded'
      exact absurd kind (exclude.rekord_hashedrekord _ _ _ kind')
    | hashedrekord decoded' kind' schema' => grind
    | intoto decoded' kind' schema' =>
      cases decoded.symm.trans decoded'
      exact absurd kind' (exclude.hashedrekord_intoto _ _ _ kind)
  | intoto decoded kind schema =>
    cases second with
    | rekord decoded' kind' schema' =>
      cases decoded.symm.trans decoded'
      exact absurd kind (exclude.rekord_intoto _ _ _ kind')
    | hashedrekord decoded' kind' schema' =>
      cases decoded.symm.trans decoded'
      exact absurd kind (exclude.hashedrekord_intoto _ _ _ kind')
    | intoto decoded' kind' schema' => grind

/-- The body records a SHA-256 value, given in hexadecimal. -/
def RecordsHash (p : Platform) (body hash : String) : Prop :=
  ∃ entry, Reads p body entry ∧ entry.hash = some ("sha256", hash)

/-- The body records a signature, given in base64. -/
def RecordsSignature (p : Platform) (body signature : String) : Prop :=
  ∃ entry recorded, Reads p body entry ∧ entry.signature = some recorded ∧
    Base64.stdEncode recorded.content = signature

/-- The body is the entry that was proposed: it records the same payload, signature and key. -/
def RecordsProposed (p : Platform) (body : String) : ProposedEntry → Prop
  | .intoto envelope publicKey => ∃ obj, Reads p body (.intoto obj) ∧
      (LogEntry.intoto obj).hash =
        some ("sha256", Hex.encodeToString (p.sha256 envelope)) ∧
      obj.publicKey = some publicKey
  | .hashedrekord algorithm value signature publicKey => ∃ obj,
      Reads p body (.hashedrekord obj) ∧
      (LogEntry.hashedrekord obj).hash = some (algorithm, value) ∧
      obj.signature = some ⟨signature, some publicKey⟩

end Cosign.Spec
