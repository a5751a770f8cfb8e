import Cosign.Verif.Documents
import Cosign.Verif.Envelope

/-!
# The envelope of the attestor

What DSSE signs is the encoding of the payload type and the payload; what it stores is the payload.
The attestor stores the encoding, so a reader of the envelope comes to the encoding of an encoding:
neither does the payload come back, nor does the signature verify (`attested_payload_lost`).
-/
namespace Cosign.Verif

open Cosign.Go Cosign.Encoding Cosign.Oci Cosign.Verify Cosign.Sign

variable {p : Platform} {pa : PayloadAttestor} {payload : Bytes} {att : OciSignature}
  {pk : PublicKey}

/-- The envelope of an attestation decodes to a payload. -/
def DecodesTo (att : Signature) (payload : Bytes) : Prop :=
  ∃ bytes env, att.payload = .ok bytes ∧ Envelope.unmarshal bytes = .ok env ∧
    env.decodePayload = some payload

theorem DecodesTo.unique {att : Signature} {other : Bytes} (first : DecodesTo att payload)
    (second : DecodesTo att other) : payload = other := by
  obtain ⟨bytes, env, read, decoded, payloadIs⟩ := first
  obtain ⟨bytes', env', read', decoded', otherIs⟩ := second
  have sameBytes : bytes = bytes' := Except.ok.inj (read.symm.trans read')
  rw [sameBytes] at decoded
  have sameEnv : env = env' := Except.ok.inj (decoded.symm.trans decoded')
  rw [sameEnv] at payloadIs
  exact Option.some.inj (payloadIs.symm.trans otherIs)

theorem length_lt_pae (payloadType : String) (payload : Bytes) :
    payload.length < (Envelope.pae payloadType payload).length := by
  have starts : ∀ rest : String, 0 < (utf8Bytes ("DSSEv1 " ++ rest)).length := by
    intro rest
    rw [utf8Bytes_eq, String.toList_append, List.flatMap_append, List.length_append]
    exact Nat.add_pos_left (by decide) _
  unfold Envelope.pae
  rw [List.length_append, String.append_assoc, String.append_assoc, String.append_assoc,
    String.append_assoc, String.append_assoc]
  have positive := starts (toString (utf8Bytes payloadType).length ++ (" " ++ (payloadType ++
    (" " ++ (toString payload.length ++ " ")))))
  omega

/-- The envelope that the attestor builds from the signature of the encoded payload. -/
def attestedEnvelope (payloadType : String) (payload sig : Bytes) : Envelope :=
  ⟨payloadType, Base64.stdEncode (Envelope.pae payloadType payload), [⟨"", Base64.stdEncode sig⟩]⟩

theorem dsseAttest_eq_ok (attested : dsseAttest p pa (.ok payload) = .ok (.ok (att, pk))) :
    ∃ sig, pa.signer.signPayload (Envelope.pae pa.payloadType payload) = .ok sig ∧
      att.payload = .ok (Json.marshal (envelopeJson
        (attestedEnvelope pa.payloadType payload sig))) := by
  unfold dsseAttest at attested
  cases signed : pa.signer.signPayload (Envelope.pae pa.payloadType payload) with
  | error err =>
    simp only [signed] at attested
    cases attested
  | ok sig =>
    cases key : pa.signer.publicKey with
    | error err =>
      simp only [signed, key] at attested
      cases attested
    | ok pub =>
      simp only [signed, key] at attested
      cases attested
      exact ⟨sig, rfl, rfl⟩

/-- The envelope of the attestor decodes to the encoding of the payload. -/
theorem decodePayload_attestedEnvelope (payloadType : String) (payload sig : Bytes) :
    (attestedEnvelope payloadType payload sig).decodePayload =
      some (Envelope.pae payloadType payload) := by
  unfold Envelope.decodePayload attestedEnvelope
  simp only [Base64.stdDecode_stdEncode]

/-- An attestation with that envelope decodes to the encoding, and so not to the payload. -/
theorem decodesTo_pae {sig : Bytes} {payloadType : String} {att : Signature}
    (written : att.payload = .ok (Json.marshal (envelopeJson
      (attestedEnvelope payloadType payload sig)))) :
    DecodesTo att (Envelope.pae payloadType payload) ∧ ¬DecodesTo att payload := by
  have encoded : DecodesTo att (Envelope.pae payloadType payload) :=
    ⟨_, _, written, unmarshal_envelope _, decodePayload_attestedEnvelope _ _ _⟩
  refine ⟨encoded, fun decodes => ?_⟩
  have longer := length_lt_pae payloadType payload
  rw [← decodes.unique encoded] at longer
  exact absurd longer (Nat.lt_irrefl _)

/-- **The payload of an attestation is lost.** Whatever is attested under whatever type and key: the
envelope decodes to the encoding of the payload, which is not the payload, and an envelope verifier
that accepts it has accepted a signature over the encoding of the encoding. So no attestation
decodes to its payload and is accepted. -/
theorem attested_payload_lost (attested : dsseAttest p pa (.ok payload) = .ok (.ok (att, pk))) :
    DecodesTo att.toSignature (Envelope.pae pa.payloadType payload) ∧
    (DsseSound p → ∀ verifier, verifyOCIAttestation p verifier att.toSignature = none →
      ∃ signature, verifier.verifySignature signature
        (Envelope.pae pa.payloadType (Envelope.pae pa.payloadType payload)) = none) ∧
    ∀ verifier, ¬(DecodesTo att.toSignature payload ∧
      verifyOCIAttestation p verifier att.toSignature = none) := by
  obtain ⟨sig, signed, written⟩ := dsseAttest_eq_ok attested
  have decodes := decodesTo_pae written
  refine ⟨decodes.1, fun sound verifier accepted => ?_, fun verifier both => decodes.2 both.1⟩
  have verified : p.verifyEnvelope verifier (attestedEnvelope pa.payloadType payload sig) =
      none := by
    simp only [verifyOCIAttestation, written, unmarshal_envelope] at accepted
    split at accepted
    · cases accepted
    · exact accepted
  obtain ⟨body, signature, bodyIs, verifies⟩ := sound _ _ verified
  rw [decodePayload_attestedEnvelope] at bodyIs
  rw [Option.some.inj bodyIs]
  exact ⟨signature, verifies⟩

/-- A signer whose signature of a message is the message. -/
def echoSigner : MessageSigner where
  signMessage message _ := .ok message
  publicKey _ := .ok sampleKey

/-- The verifier of its signatures. -/
def echoVerifier : Verifier where
  verifySignature signature message :=
    if signature = message then none else some ⟨"invalid signature"⟩
  publicKey _ := .ok sampleKey

/-- An attestor of in-toto statements. -/
def echoAttestor : PayloadAttestor := ⟨⟨echoSigner, [], []⟩, intotoPayloadType⟩

/-- The verifier refuses a signature of the payload that stands under its encoding. -/
theorem echo_refused (payload : Bytes) :
    sampleVerifyEnvelope echoVerifier (attestedEnvelope intotoPayloadType payload
      (Envelope.pae intotoPayloadType payload)) ≠ none := by
  have different : Envelope.pae intotoPayloadType payload ≠
      Envelope.pae intotoPayloadType (Envelope.pae intotoPayloadType payload) := by
    intro same
    have longer := length_lt_pae intotoPayloadType (Envelope.pae intotoPayloadType payload)
    rw [← same] at longer
    exact absurd longer (Nat.lt_irrefl _)
  unfold sampleVerifyEnvelope
  rw [decodePayload_attestedEnvelope]
  simp [attestedEnvelope, Base64.stdDecode_stdEncode, echoVerifier, different]

/-- An attestation of four bytes under its own key: it decodes to other bytes, and it is not
accepted. -/
theorem attested_payload_refused :
    ∃ att pk, dsseAttest samplePlatform echoAttestor (.ok samplePayload) = .ok (.ok (att, pk)) ∧
      (∀ message opts signature, echoSigner.signMessage message opts = .ok signature →
        echoVerifier.verifySignature signature message = none) ∧
      ¬DecodesTo att.toSignature samplePayload ∧
      verifyOCIAttestation samplePlatform echoVerifier att.toSignature ≠ none := by
  obtain ⟨att, pk, attested⟩ : ∃ att pk,
      dsseAttest samplePlatform echoAttestor (.ok samplePayload) = .ok (.ok (att, pk)) :=
    ⟨_, _, rfl⟩
  obtain ⟨sig, signed, written⟩ := dsseAttest_eq_ok attested
  have sigIs : Envelope.pae intotoPayloadType samplePayload = sig := Except.ok.inj signed
  refine ⟨att, pk, attested, ?_, (decodesTo_pae written).2, ?_⟩
  · intro message opts signature made
    exact if_pos (Except.ok.inj made).symm
  · rw [← sigIs] at written
    have typed : (attestedEnvelope echoAttestor.payloadType samplePayload
        (Envelope.pae intotoPayloadType samplePayload)).payloadType = intotoPayloadType := rfl
    simp only [verifyOCIAttestation, written, unmarshal_envelope]
    rw [if_neg (not_not_intro typed)]
    exact echo_refused samplePayload

/-- The attestation of four bytes is such an attestation. -/
theorem attested_payload_lost_sample :
    ∃ att pk, dsseAttest samplePlatform echoAttestor (.ok samplePayload) = .ok (.ok (att, pk)) ∧
      DecodesTo att.toSignature (Envelope.pae intotoPayloadType samplePayload) := by
  have attested : dsseAttest samplePlatform echoAttestor (.ok samplePayload) = .ok (.ok _) := rfl
  exact ⟨_, _, attested, (attested_payload_lost attested).1⟩

end Cosign.Verif
