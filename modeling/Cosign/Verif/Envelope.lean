import Cosign.Encoding.Fields
import Cosign.Policy.Attestation
import Cosign.Verif.Sample

/-!
# Three readings of one envelope

The signature check and the subject check decode the envelope into a struct, whose fields are filled
whatever the letter case of the names; the policy check decodes it into a map, which keeps the
spelling. The three read the same payload exactly when the last member spelled payload decodes to
the same bytes as the last that agrees with it up to letter case (`policies_see_signed_iff`).
-/
namespace Cosign.Verif

open Cosign.Go Cosign.Encoding Cosign.Oci Cosign.Verify Cosign.Policy

variable {p : Platform} {verifier : Verifier} {att : Signature} {env : Envelope}

/-- The envelope verifier accepts only if some signature verifies over the encoding of the
payload type and the decoded payload. -/
def DsseSound (p : Platform) : Prop :=
  ∀ verifier env, p.verifyEnvelope verifier env = none → ∃ body signature,
    env.decodePayload = some body ∧
    verifier.verifySignature signature (Envelope.pae env.payloadType body) = none

/-- The bytes of an attestation whose encoding was checked against a signature. -/
def SignedBytes (verifier : Verifier) (att : Signature) (bytes : Bytes) : Prop :=
  ∃ payload env signature, att.payload = .ok payload ∧ Envelope.unmarshal payload = .ok env ∧
    env.decodePayload = some bytes ∧
    verifier.verifySignature signature (Envelope.pae env.payloadType bytes) = none

/-- What the policy check decodes is what was signed, and what the subject check decodes. -/
def PoliciesSeeSigned (verifier : Verifier) (att : Signature) : Prop :=
  ∀ bytes, decodedPayload att = .ok (.ok bytes) →
    SignedBytes verifier att bytes ∧ ∀ other, subjectBytes att = .ok other → other = bytes

/-- Decoding of a payload text: standard base64, or else the URL-safe alphabet. -/
def decodeText (text : String) : Option Bytes :=
  (Envelope.mk "" text []).decodePayload

/-- The last member spelled payload, if it decodes, decodes to the bytes of the last string
under a name that agrees with payload up to letter case. -/
def PayloadsAgree (att : Signature) : Prop :=
  ∀ payload members text bytes, att.payload = .ok payload →
    Json.parse payload = some (.obj members) → membersFit members = true →
    mapValue members "payload" = some (.str text) → Base64.stdDecode text = some bytes →
    decodeText ((lastString "payload" members).getD "") = some bytes

theorem envelope_payload : StringField Envelope.fields "payload" Envelope.payload
    (fun filled text => { filled with payload := text }) where
  distinct := by
    unfold FoldDistinct
    decide +kernel
  member := by simp [Envelope.fields]
  stored _ _ := rfl
  apart other member elsewhere filled value next stored := by
    simp only [Envelope.fields, List.mem_cons, List.not_mem_nil, or_false] at member
    rcases member with rfl | rfl | rfl <;> dsimp only at stored
    · exact storeString_frame stored fun _ _ => rfl
    · exact absurd rfl elsewhere
    · exact storeSlice_frame stored fun _ _ => rfl

/-- An envelope that decodes with a payload type was an object, and holds the last payload of
it up to letter case. -/
theorem unmarshal_payload {payload : Bytes} (decoded : Envelope.unmarshal payload = .ok env)
    (typed : env.payloadType ≠ "") :
    ∃ members, Json.parse payload = some (.obj members) ∧
      env.payload = (lastString "payload" members).getD "" := by
  unfold Envelope.unmarshal unmarshal at decoded
  split at decoded
  · rename_i tree parsed
    unfold fillStruct at decoded
    split at decoded
    · cases decoded
      exact absurd rfl typed
    · rename_i members
      exact ⟨members, parsed, fillMembers_string envelope_payload decoded⟩
    · cases decoded
  · cases decoded

/-- An attestation that is accepted has an object with the in-toto payload type, some signature
of which verifies over the decoded payload. -/
theorem verifyOCIAttestation_accepts (sound : DsseSound p)
    (accepted : verifyOCIAttestation p verifier att = none) :
    ∃ payload env members body signature, att.payload = .ok payload ∧
      Envelope.unmarshal payload = .ok env ∧ Json.parse payload = some (.obj members) ∧
      env.payload = (lastString "payload" members).getD "" ∧ env.decodePayload = some body ∧
      verifier.verifySignature signature (Envelope.pae env.payloadType body) = none := by
  unfold verifyOCIAttestation at accepted
  split at accepted
  · cases accepted
  · rename_i payload read
    split at accepted
    · cases accepted
    · rename_i env decoded
      split at accepted
      · cases accepted
      · rename_i typed
        have typed : env.payloadType = intotoPayloadType := not_not.mp typed
        obtain ⟨members, parsed, last⟩ := unmarshal_payload decoded (by rw [typed]; decide)
        obtain ⟨body, signature, signed, valid⟩ := sound verifier env accepted
        exact ⟨payload, env, members, body, signature, read, decoded, parsed, last, signed,
          valid⟩

/-- The policy check decodes bytes exactly when the last member spelled payload does. -/
theorem decodedPayload_eq_ok {payload bytes : Bytes} {members : List (String × Json)}
    (read : att.payload = .ok payload) (parsed : Json.parse payload = some (.obj members)) :
    decodedPayload att = .ok (.ok bytes) ↔
      membersFit members = true ∧ ∃ text, mapValue members "payload" = some (.str text) ∧
        Base64.stdDecode text = some bytes := by
  simp only [decodedPayload, read, unmarshal, parsed, fillMap]
  by_cases fits : membersFit members = true
  · simp only [fits, if_true, true_and]
    cases held : mapValue members "payload" with
    | none => simp
    | some value =>
      simp only [bind_eq_ok, assertString_eq_ok, Option.some.injEq]
      constructor
      · rintro ⟨text, rfl, decoded⟩
        cases found : Base64.stdDecode text with
        | none => simp [found] at decoded
        | some bytes' =>
          simp only [found, Except.ok.injEq] at decoded
          exact ⟨text, rfl, decoded ▸ found⟩
      · rintro ⟨text, rfl, found⟩
        exact ⟨text, rfl, by simp [found]⟩
  · simp [fits]

/-- The subject check decodes bytes only if they are the decoded payload. -/
theorem subjectBytes_eq_ok {payload bytes : Bytes} (read : att.payload = .ok payload)
    (decoded : Envelope.unmarshal payload = .ok env) (taken : subjectBytes att = .ok bytes) :
    env.decodePayload = some bytes := by
  simp only [subjectBytes, read, decoded] at taken
  split at taken
  · cases taken
  · rename_i stBytes standard
    cases taken
    simp only [Envelope.decodePayload, standard]

/-- **Policies see what was signed exactly when the spellings of payload agree.** -/
theorem policies_see_signed_iff (sound : DsseSound p)
    (accepted : verifyOCIAttestation p verifier att = none) :
    PoliciesSeeSigned verifier att ↔ PayloadsAgree att := by
  obtain ⟨payload, env, members, body, signature, read, decoded, parsed, last, signed, valid⟩ :=
    verifyOCIAttestation_accepts sound accepted
  have same : decodeText ((lastString "payload" members).getD "") = env.decodePayload := by
    rw [← last]
    rfl
  constructor
  · intro sees payload' members' text bytes read' parsed' fits held standard
    cases read.symm.trans read'
    cases parsed.symm.trans parsed'
    obtain ⟨⟨payload', env', _, read', decoded', signed', -⟩, -⟩ :=
      sees bytes ((decodedPayload_eq_ok read parsed).mpr ⟨fits, text, held, standard⟩)
    cases read.symm.trans read'
    cases decoded.symm.trans decoded'
    rw [same, signed']
  · intro agree bytes policy
    obtain ⟨fits, text, held, standard⟩ := (decodedPayload_eq_ok read parsed).mp policy
    have checked : env.decodePayload = some bytes :=
      same ▸ agree payload members text bytes read parsed fits held standard
    cases signed.symm.trans checked
    refine ⟨⟨payload, env, signature, read, decoded, checked, valid⟩, fun other taken => ?_⟩
    exact Option.some.inj ((subjectBytes_eq_ok read decoded taken).symm.trans checked)

theorem samplePlatform_sound : DsseSound samplePlatform := by
  intro verifier env accepted
  simp only [samplePlatform, sampleVerifyEnvelope] at accepted
  split at accepted
  · cases accepted
  · rename_i body decoded
    split at accepted
    · rename_i verified
      obtain ⟨signature, -, verified⟩ := List.any_eq_true.mp verified
      split at verified
      · cases verified
      · rename_i sig _
        exact ⟨body, sig, decoded, Option.isNone_iff_eq_none.mp verified⟩
    · cases accepted

/-- An envelope with two payloads whose names differ in letter case. -/
def twoPayloads : Signature :=
  { sampleLayer "" none none with
    payload := .ok (Json.marshal (.obj [("payloadType", .str intotoPayloadType),
      ("payload", .str "AQ=="), ("Payload", .str "Ag=="),
      ("signatures", .arr [.obj [("sig", .str "AQ==")]])])) }

theorem twoPayloads_accepted :
    verifyOCIAttestation samplePlatform sampleVerifier twoPayloads = none := by
  decide +kernel

/-- The policy check decodes other bytes than were signed and than the subject check
decodes. -/
theorem policies_see_other_bytes :
    verifyOCIAttestation samplePlatform sampleVerifier twoPayloads = none ∧
      decodedPayload twoPayloads = .ok (.ok [1]) ∧ subjectBytes twoPayloads = .ok [2] ∧
      ¬PoliciesSeeSigned sampleVerifier twoPayloads := by
  have policy : decodedPayload twoPayloads = .ok (.ok [1]) := by decide +kernel
  have subject : subjectBytes twoPayloads = .ok [2] := by decide +kernel
  refine ⟨twoPayloads_accepted, policy, subject, fun sees => ?_⟩
  have same := (sees [1] policy).2 [2] subject
  revert same
  decide

/-- An envelope with one payload. -/
def onePayloadEnvelope : Json :=
  .obj [("payloadType", .str intotoPayloadType), ("payload", .str "AQ=="),
    ("signatures", .arr [.obj [("sig", .str "AQ==")]])]

/-- An attestation that carries it. -/
def onePayload : Signature :=
  { sampleLayer "" none none with payload := .ok (Json.marshal onePayloadEnvelope) }

theorem onePayload_agrees : PayloadsAgree onePayload := by
  have writable : Json.Writable Json.maxNestingDepth onePayloadEnvelope :=
    ⟨by decide, trivial, trivial, ⟨by decide, ⟨by decide, trivial, trivial⟩, trivial⟩, trivial⟩
  intro payload members text bytes read parsed fits held standard
  cases read
  cases (Json.parse_marshal writable).symm.trans parsed
  cases held
  exact standard

/-- The condition holds of the envelope with one payload, which the policies see, and decides the
other. -/
theorem policies_see_signed_iff_one :
    (decodedPayload onePayload = .ok (.ok [1]) ∧ PoliciesSeeSigned sampleVerifier onePayload) ∧
    verifyOCIAttestation samplePlatform sampleVerifier twoPayloads = none ∧
      (PoliciesSeeSigned sampleVerifier twoPayloads ↔ PayloadsAgree twoPayloads) := by
  have accepted : verifyOCIAttestation samplePlatform sampleVerifier onePayload = none := by
    decide +kernel
  have policy : decodedPayload onePayload = .ok (.ok [1]) := by decide +kernel
  exact ⟨⟨policy, (policies_see_signed_iff samplePlatform_sound accepted).mpr onePayload_agrees⟩,
    twoPayloads_accepted, policies_see_signed_iff samplePlatform_sound twoPayloads_accepted⟩

end Cosign.Verif
