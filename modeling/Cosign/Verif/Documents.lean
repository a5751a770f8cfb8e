import Cosign.Encoding.Base64
import Cosign.Encoding.Decimal
import Cosign.Sign.Signers
import Cosign.Verif.Representation
import Cosign.Verify.Claims

/-!
# Documents that are written and read back

The bundle annotation, the payload of an image signature and the envelope of an attestation are read
back as they were written; a bundle when its body is a string, as that of a log entry is.
-/
namespace Cosign.Verif

open Cosign.Go Cosign.Encoding Cosign.Oci Cosign.Verify Cosign.Sign

/-- The payload of a bundle with a string as body can be written. -/
theorem writable_rekorPayload {payload : RekorPayload} {body : String}
    (text : payload.body = .str body) (limit : Nat) :
    Json.Writable (limit + 1) payload.toJson := by
  unfold RekorPayload.toJson
  rw [text]
  exact ⟨Nat.succ_pos limit, trivial, isNumber_int64 _, isNumber_int64 _, trivial,
    trivial⟩

/-- The payload of a bundle is filled from what was written for it. -/
theorem fill_rekorPayload {payload : RekorPayload} {body : String}
    (text : payload.body = .str body) :
    fillStruct "bundle.RekorPayload" RekorPayload.fields .zero payload.toJson = .ok payload := by
  obtain ⟨body, integratedTime, logIndex, logID⟩ := payload
  dsimp only at text
  have time : storeInt64 (fun filled value => { filled with integratedTime := value })
      (RekorPayload.mk body 0 0 "") (.num (toString integratedTime)) =
      .ok ⟨body, integratedTime, 0, ""⟩ := by
    simp only [storeInt64, parseInt64_toString]
  have index : storeInt64 (fun filled value => { filled with logIndex := value })
      (RekorPayload.mk body integratedTime 0 "") (.num (toString logIndex)) =
      .ok ⟨body, integratedTime, logIndex, ""⟩ := by
    simp only [storeInt64, parseInt64_toString]
  have stored : storeAny (fun filled value => { filled with body := value })
      RekorPayload.zero body = .ok ⟨body, 0, 0, ""⟩ := by
    rw [text]
    rfl
  simp only [RekorPayload.toJson, fillStruct]
  refine Eq.trans (fillMembers_cons rfl stored) ?_
  refine Eq.trans (fillMembers_cons rfl time) ?_
  refine Eq.trans (fillMembers_cons rfl index) ?_
  exact fillMembers_cons rfl rfl

theorem writable_rekorBundle {bundle : RekorBundle} {body : String}
    (text : bundle.payload.body = .str body) (limit : Nat) :
    Json.Writable (limit + 2) bundle.toJson :=
  ⟨Nat.succ_pos _, trivial, writable_rekorPayload text limit, trivial⟩

theorem fill_rekorBundle {bundle : RekorBundle} {body : String}
    (text : bundle.payload.body = .str body) :
    fillStruct "bundle.RekorBundle" RekorBundle.fields .zero bundle.toJson = .ok bundle := by
  obtain ⟨signedEntryTimestamp, payload⟩ := bundle
  have timestamp : storeBytes (fun filled bytes =>
      { filled with signedEntryTimestamp := bytes }) RekorBundle.zero
      (.str (Base64.stdEncode signedEntryTimestamp)) = .ok ⟨signedEntryTimestamp, .zero⟩ := by
    simp only [storeBytes, Base64.stdDecode_stdEncode]
    rfl
  have filled : (fillStruct "bundle.RekorPayload" RekorPayload.fields RekorPayload.zero
      payload.toJson).map (fun payload => RekorBundle.mk signedEntryTimestamp payload) =
      .ok ⟨signedEntryTimestamp, payload⟩ := by
    rw [fill_rekorPayload text]
    rfl
  simp only [RekorBundle.toJson, fillStruct]
  refine Eq.trans (fillMembers_cons rfl timestamp) ?_
  exact fillMembers_cons rfl filled

theorem roundTrips_of_text {bundle : RekorBundle} {body : String}
    (text : bundle.payload.body = .str body) : RoundTrips bundle := by
  have written : utf8Bytes bundle.marshal = Json.marshal bundle.toJson :=
    utf8Bytes_ofList (Json.render bundle.toJson)
  unfold RoundTrips RekorBundle.unmarshal
  rw [written, unmarshal_marshal (writable_rekorBundle text 9998), fill_rekorBundle text]

/-- The tree of one signature of an envelope. -/
def signatureJson (signature : EnvelopeSignature) : Json :=
  .obj [("keyid", .str signature.keyid), ("sig", .str signature.sig)]

theorem writable_envelope (env : Envelope) :
    Json.Writable Json.maxNestingDepth (envelopeJson env) := by
  have one : ∀ signature, Json.Writable 9998 (signatureJson signature) :=
    fun signature => ⟨by decide, trivial, trivial, trivial⟩
  have signatures := Json.writableElements_map one env.signatures
  exact ⟨by decide, trivial, trivial, ⟨by decide, signatures⟩, trivial⟩

theorem unmarshal_envelope (env : Envelope) :
    Envelope.unmarshal (Json.marshal (envelopeJson env)) = .ok env := by
  unfold Envelope.unmarshal
  rw [unmarshal_marshal (writable_envelope env)]
  obtain ⟨payloadType, payload, given⟩ := env
  have reads : ∀ signature, EnvelopeSignature.fill (signatureJson signature) = .ok signature :=
    fun signature => rfl
  have filled : storeSlice EnvelopeSignature.fill (fun filled signatures =>
      { filled with signatures }) (Envelope.mk payloadType payload [])
      (.arr (given.map signatureJson)) = .ok ⟨payloadType, payload, given⟩ := by
    unfold storeSlice
    simp only [fillElements_map reads]
  simp only [envelopeJson, fillStruct]
  refine Eq.trans (fillMembers_cons rfl rfl) ?_
  refine Eq.trans (fillMembers_cons rfl rfl) ?_
  exact fillMembers_cons rfl filled

/-- The members that the payload of an image signature has for its annotations. -/
def optionalMembers (annotations : Option (List (String × String))) : List (String × Json) :=
  (annotations.getD []).map fun member => (member.1, .str member.2)

theorem membersFit_strings (members : List (String × String)) :
    membersFit (members.map fun member => (member.1, .str member.2)) = true := by
  induction members with
  | nil => rfl
  | cons first rest ih =>
    rw [List.map_cons, membersFit, ih]
    rfl

theorem writableMembers_strings (limit : Nat) (members : List (String × String)) :
    Json.WritableMembers limit (members.map fun member => (member.1, .str member.2)) := by
  induction members with
  | nil => trivial
  | cons first rest ih => exact ⟨trivial, ih⟩

theorem unmarshal_cosignPayload (repository : String) (digest : Hash)
    (annotations : Option (List (String × String))) :
    SimpleContainerImage.unmarshal (cosignPayload repository digest annotations) =
      .ok ⟨⟨repository, digest.string, "cosign container image signature"⟩,
        optionalMembers annotations⟩ := by
  unfold SimpleContainerImage.unmarshal cosignPayload
  cases annotations with
  | none =>
    rw [unmarshal_marshal]
    · rfl
    · exact ⟨by decide, ⟨by decide, ⟨by decide, trivial, trivial⟩, ⟨by decide, trivial, trivial⟩,
        trivial, trivial⟩, trivial, trivial⟩
  | some members =>
    rw [unmarshal_marshal]
    · have filled : ∀ critical, storeMap SimpleContainerImage.optional
          (fun filled optional => { filled with optional }) ⟨critical, []⟩
          (.obj (members.map fun member => (member.1, .str member.2))) =
          .ok ⟨critical, optionalMembers (some members)⟩ := by
        intro critical
        simp only [storeMap, fillMap, membersFit_strings, if_true]
        rfl
      simp only [fillStruct]
      refine Eq.trans (fillMembers_cons rfl rfl) ?_
      exact fillMembers_cons rfl (filled _)
    · exact ⟨by decide, ⟨by decide, ⟨by decide, trivial, trivial⟩, ⟨by decide, trivial, trivial⟩,
        trivial, trivial⟩, ⟨by decide, writableMembers_strings _ members⟩, trivial⟩

end Cosign.Verif
