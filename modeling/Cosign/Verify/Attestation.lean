import Cosign.Verify.Platform

/-!
# Envelopes of attestations

An attestation layer holds a DSSE envelope in JSON. Two functions decode it: `verifyOCIAttestation`,
which checks the signatures over the payload, and `IntotoSubjectClaimVerifier`, which looks for the
image digest among the subjects of the statement.
-/
namespace Cosign.Verify

open Cosign.Go Cosign.Encoding Cosign.Oci

namespace EnvelopeSignature

/-- Struct tags of `dsse.Signature`. -/
def fields : List (StructField EnvelopeSignature) :=
  [⟨"keyid", storeString fun filled text => { filled with keyid := text }⟩,
    ⟨"sig", storeString fun filled text => { filled with sig := text }⟩]

/-- Fill one signature of an envelope. -/
def fill (value : Json) : Except GoError EnvelopeSignature :=
  fillStruct "dsse.Signature" fields ⟨"", ""⟩ value

end EnvelopeSignature

namespace Envelope

/-- Struct tags of `dsse.Envelope`. -/
def fields : List (StructField Envelope) :=
  [⟨"payloadType", storeString fun filled text => { filled with payloadType := text }⟩,
    ⟨"payload", storeString fun filled text => { filled with payload := text }⟩,
    ⟨"signatures", storeSlice EnvelopeSignature.fill fun filled signatures =>
      { filled with signatures }⟩]

/-- The zero value that decoding starts from. -/
def zero : Envelope := ⟨"", "", []⟩

/-- `json.Unmarshal` of an attestation payload. -/
def unmarshal (payload : Bytes) : Except GoError Envelope :=
  Encoding.unmarshal (fillStruct "dsse.Envelope" fields zero) payload

/-- `DecodeB64Payload`: standard base64, or else the URL-safe alphabet. -/
def decodePayload (env : Envelope) : Option Bytes :=
  match Base64.stdDecode env.payload with
  | some body => some body
  | none => Base64.urlDecode env.payload

/-- `dsse.PAE`: the text that is signed, made of the payload type and the decoded payload. -/
def pae (payloadType : String) (payload : Bytes) : Bytes :=
  utf8Bytes ("DSSEv1 " ++ toString (utf8Bytes payloadType).length ++ " " ++ payloadType ++ " " ++
    toString payload.length ++ " ") ++ payload

end Envelope

/-- `types.IntotoPayloadType`. -/
def intotoPayloadType : String := "application/vnd.in-toto+json"

/-- `verifyOCIAttestation`. -/
def verifyOCIAttestation (p : Platform) (verifier : Verifier) (att : Signature) :
    Option GoError :=
  match att.payload with
  | .error err => some err
  | .ok payload =>
    match Envelope.unmarshal payload with
    | .error err => some err
    | .ok env =>
      if env.payloadType ≠ intotoPayloadType then
        some ⟨"invalid payloadType " ++ env.payloadType ++ " on envelope. Expected " ++
          intotoPayloadType⟩
      else p.verifyEnvelope verifier env

/-- `in_toto.Subject`. -/
structure Subject where
  /-- Name of the artifact. -/
  name : String
  /-- Digests by algorithm. -/
  digest : List (String × String)
  deriving DecidableEq, Repr

namespace Subject

/-- Struct tags of `in_toto.Subject`. -/
def fields : List (StructField Subject) :=
  [⟨"name", storeString fun filled text => { filled with name := text }⟩,
    ⟨"digest", fun filled value =>
      (fillStringMap filled.digest value).map fun digest => { filled with digest }⟩]

/-- Fill one subject of a statement. -/
def fill (value : Json) : Except GoError Subject :=
  fillStruct "in_toto.Subject" fields ⟨"", []⟩ value

end Subject

/-- `in_toto.Statement`, with its embedded header. -/
structure Statement where
  /-- Type of the statement. -/
  type : String
  /-- URI of the predicate type. -/
  predicateType : String
  /-- What the statement is about. -/
  subject : List Subject
  /-- The `interface{}` of the predicate. -/
  predicate : Json
  deriving Repr

namespace Statement

/-- Struct tags of `in_toto.Statement`. -/
def fields : List (StructField Statement) :=
  [⟨"_type", storeString fun filled text => { filled with type := text }⟩,
    ⟨"predicateType", storeString fun filled text => { filled with predicateType := text }⟩,
    ⟨"subject", storeSlice Subject.fill fun filled subject => { filled with subject }⟩,
    ⟨"predicate", storeAny fun filled predicate => { filled with predicate }⟩]

/-- The zero value that decoding starts from. -/
def zero : Statement := ⟨"", "", [], .null⟩

/-- `json.Unmarshal` of a statement. -/
def unmarshal (bytes : Bytes) : Except GoError Statement :=
  Encoding.unmarshal (fillStruct "in_toto.Statement" fields zero) bytes

end Statement

/-- The statement bytes of `IntotoSubjectClaimVerifier`: the payload of the envelope in
standard base64. -/
def subjectBytes (sig : Signature) : Except GoError Bytes :=
  match sig.payload with
  | .error err => .error err
  | .ok payload =>
    match Envelope.unmarshal payload with
    | .error err => .error err
    | .ok env =>
      match Base64.stdDecode env.payload with
      | none => .error corruptInput
      | some stBytes => .ok stBytes

/-- `IntotoSubjectClaimVerifier`: some subject of the statement is the image. -/
def intotoSubjectClaimVerifier (sig : Signature) (imageDigest : Hash)
    (_annotations : Option (GoMap String)) : Option GoError :=
  match subjectBytes sig with
  | .error err => some err
  | .ok stBytes =>
    match Statement.unmarshal stBytes with
    | .error err => some err
    | .ok st =>
      if st.subject.any fun subj =>
          match stringMapValue subj.digest "sha256" with
          | none => false
          | some dgst => "sha256:" ++ dgst == imageDigest.string then none
      else some ⟨"no matching subject digest found"⟩

end Cosign.Verify
