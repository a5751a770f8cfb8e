import Cosign.Verify.Attestation

/-!
# Attestations as input of policies

`AttestationToPayloadJSON` turns a verified attestation into the JSON that a policy engine reads. It
decodes the envelope a third time, into a map, and follows an `interface{}` of it with a type
assertion. Another predicate type gives an empty result.
-/
namespace Cosign.Policy

open Cosign.Go Cosign.Encoding Cosign.Oci Cosign.Verify

/-- `json.Unmarshal` into a statement type and `json.Marshal` of it. -/
structure TypedCodec where
  /-- `json.Unmarshal` into the type, by the tree that is kept. -/
  unmarshal : Bytes → Except GoError Json
  /-- `json.Marshal` of a value of the type. -/
  marshal : Json → Except GoError Bytes
  /-- A JSON text is not empty. -/
  nonempty : ∀ value text, marshal value = .ok text → text ≠ []

/-- The statement types outside the repository. -/
structure StatementCodec where
  /-- `slsa.PredicateSLSAProvenance`. -/
  slsaURI : String
  /-- `in_toto.PredicateSPDX`. -/
  spdxURI : String
  /-- `in_toto.PredicateLinkV1`. -/
  linkURI : String
  /-- `json.Marshal` of an `in_toto.Statement`. -/
  marshalStatement : Statement → Except GoError Bytes
  /-- A JSON text is not empty. -/
  nonempty : ∀ statement text, marshalStatement statement = .ok text → text ≠ []
  /-- `in_toto.LinkStatement`. -/
  link : TypedCodec
  /-- `in_toto.ProvenanceStatement`. -/
  provenance : TypedCodec
  /-- `in_toto.SPDXStatement`. -/
  spdx : TypedCodec
  /-- `attestation.CosignVulnStatement`. -/
  vuln : TypedCodec

/-- `PredicateCustom`. -/
def predicateCustom : String := "custom"

/-- `PredicateSLSA`. -/
def predicateSLSA : String := "slsaprovenance"

/-- `PredicateSPDX`. -/
def predicateSPDX : String := "spdx"

/-- `PredicateLink`. -/
def predicateLink : String := "link"

/-- `PredicateVuln`. -/
def predicateVuln : String := "vuln"

/-- `CosignCustomProvenanceV01`. -/
def cosignCustomProvenanceV01 : String := "cosign.sigstore.dev/attestation/v1"

/-- `CosignVulnProvenanceV01`. -/
def cosignVulnProvenanceV01 : String := "cosign.sigstore.dev/attestation/vuln/v1"

/-- `PredicateTypeMap`. -/
def predicateTypeMap (codec : StatementCodec) : List (String × String) :=
  [(predicateCustom, cosignCustomProvenanceV01), (predicateSLSA, codec.slsaURI),
    (predicateSPDX, codec.spdxURI), (predicateLink, codec.linkURI),
    (predicateVuln, cosignVulnProvenanceV01)]

/-- The statement bytes of `AttestationToPayloadJSON`: the entry of the decoded map under the
name payload, in standard base64. -/
def decodedPayload (verifiedAttestation : Signature) : Call (Except GoError Bytes) :=
  match verifiedAttestation.payload with
  | .error err => .ok (.error (err.wrap "getting payload"))
  | .ok p =>
    match unmarshal fillMap p with
    | .error err => .ok (.error (err.wrap "unmarshaling payload data"))
    | .ok payloadData =>
      match mapValue payloadData "payload" with
      | none => .ok (.error ⟨"could not find payload in payload data"⟩)
      | some val => do
        let text ← assertString val
        match Base64.stdDecode text with
        | none => .ok (.error (corruptInput.wrap "decoding payload"))
        | some decoded => .ok (.ok decoded)

/-- One of the statement types: decoded and written again. -/
def TypedCodec.convert (codec : TypedCodec) (name : String) (decodedPayload : Bytes) :
    Except GoError Bytes :=
  match codec.unmarshal decodedPayload with
  | .error err => .error (err.wrap ("unmarshaling " ++ name))
  | .ok value =>
    match codec.marshal value with
    | .error err => .error (err.wrap ("marshaling " ++ name))
    | .ok payload => .ok payload

/-- The switch of `AttestationToPayloadJSON` over the predicate types. -/
def convertStatement (codec : StatementCodec) (predicateType : String) (statement : Statement)
    (decodedPayload : Bytes) : Except GoError Bytes :=
  if predicateType = predicateCustom then
    match codec.marshalStatement statement with
    | .error err => .error (err.wrap "generating CosignStatement")
    | .ok payload => .ok payload
  else if predicateType = predicateLink then codec.link.convert "LinkStatement" decodedPayload
  else if predicateType = predicateSLSA then
    codec.provenance.convert "ProvenanceStatement" decodedPayload
  else if predicateType = predicateSPDX then codec.spdx.convert "SPDXStatement" decodedPayload
  else if predicateType = predicateVuln then codec.vuln.convert "CosignVulnStatement" decodedPayload
  else .error ⟨"unsupported predicate type: " ++ predicateType⟩

/-- `AttestationToPayloadJSON`: the JSON for the policy engines, which is empty when the
statement is of another predicate type. -/
def attestationToPayloadJSON (codec : StatementCodec) (predicateType : String)
    (verifiedAttestation : Signature) : Call (Except GoError Bytes) :=
  match (predicateTypeMap codec).lookup predicateType with
  | none => .ok (.error ⟨"invalid predicate type: " ++ predicateType⟩)
  | some predicateURI => do
    match ← decodedPayload verifiedAttestation with
    | .error err => .ok (.error err)
    | .ok decodedPayload =>
      match Statement.unmarshal decodedPayload with
      | .error err => .ok (.error (err.wrap "unmarshal in-toto statement"))
      | .ok statement =>
        if statement.predicateType ≠ predicateURI then .ok (.ok [])
        else .ok (convertStatement codec predicateType statement decodedPayload)

end Cosign.Policy
