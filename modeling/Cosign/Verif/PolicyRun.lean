import Cosign.Cli.VerifyAttestation
import Cosign.Encoding.Base64
import Cosign.Encoding.JsonText
import Cosign.Verif.Envelope
import Cosign.Verif.Isolation

/-!
# Runs of verify-attestation

A run succeeds for an image when no policy reports an error on a verified attestation of the
requested type. The loop skips other types, so a run without an attestation of the requested type
succeeds without any policy having been asked (`exec_not_vacuous_iff`).
-/
namespace Cosign.Verif

open Cosign.Go Cosign.Encoding Cosign.Oci Cosign.Verify Cosign.Policy Cosign.Cli

variable {env : Env} {c : VerifyAttestationCommand} {co : CheckOpts} {att : Signature}
  {codec : StatementCodec} {predicateType : String} {cuePolicies regoPolicies : List String}

/-- The statement of an attestation has the requested predicate type. -/
def HasType (codec : StatementCodec) (predicateType : String) (att : Signature) : Prop :=
  ∃ predicateURI bytes statement,
    (predicateTypeMap codec).lookup predicateType = some predicateURI ∧
    decodedPayload att = .ok (.ok bytes) ∧ Statement.unmarshal bytes = .ok statement ∧
    statement.predicateType = predicateURI

/-- An attestation was given to the policies of each engine and accepted. -/
def PassedPolicies (env : Env) (predicateType : String)
    (cuePolicies regoPolicies : List String) (att : Signature) : Prop :=
  ∃ payload, attestationToPayloadJSON env.codec predicateType att = .ok (.ok payload) ∧
    payload ≠ [] ∧
    (cuePolicies ≠ [] → cueValidateJSON env.engines payload cuePolicies = none) ∧
    (regoPolicies ≠ [] → regoValidateJSON env.engines payload regoPolicies = [])

theorem convert_nonempty {typed : TypedCodec} {name : String} {bytes payload : Bytes}
    (converted : typed.convert name bytes = .ok payload) : payload ≠ [] := by
  unfold TypedCodec.convert at converted
  split at converted
  · cases converted
  · split at converted
    · cases converted
    · rename_i marshalled
      cases converted
      exact typed.nonempty _ _ marshalled

theorem convertStatement_nonempty {statement : Statement} {bytes payload : Bytes}
    (converted : convertStatement codec predicateType statement bytes = .ok payload) :
    payload ≠ [] := by
  unfold convertStatement at converted
  split at converted
  · split at converted
    · cases converted
    · rename_i marshalled
      cases converted
      exact codec.nonempty _ _ marshalled
  · split at converted
    · exact convert_nonempty converted
    · split at converted
      · exact convert_nonempty converted
      · split at converted
        · exact convert_nonempty converted
        · split at converted
          · exact convert_nonempty converted
          · cases converted

theorem hasType_iff {predicateURI : String} {bytes : Bytes} {statement : Statement}
    (known : (predicateTypeMap codec).lookup predicateType = some predicateURI)
    (decoded : decodedPayload att = .ok (.ok bytes))
    (parsed : Statement.unmarshal bytes = .ok statement) :
    HasType codec predicateType att ↔ statement.predicateType = predicateURI := by
  unfold HasType
  simp [known, decoded, parsed, eq_comm]

/-- A conversion for the policies is not empty exactly on the requested predicate type. -/
theorem attestationToPayloadJSON_nonempty {payload : Bytes}
    (converted : attestationToPayloadJSON codec predicateType att = .ok (.ok payload)) :
    payload ≠ [] ↔ HasType codec predicateType att := by
  unfold attestationToPayloadJSON at converted
  split at converted
  · cases converted
  · rename_i predicateURI known
    obtain ⟨outcome, decoded, converted⟩ := bind_eq_ok.mp converted
    cases outcome with
    | error err => cases converted
    | ok bytes =>
      dsimp only at converted
      split at converted
      · cases converted
      · rename_i statement parsed
        rw [hasType_iff known decoded parsed]
        split at converted
        · rename_i other
          cases converted
          simp [other]
        · rename_i same
          exact iff_of_true (convertStatement_nonempty (Except.ok.inj converted))
            (not_not.mp same)

/-- The policies are given nothing of a statement of another predicate type. -/
theorem attestationToPayloadJSON_other {predicateURI : String} {bytes : Bytes}
    {statement : Statement}
    (known : (predicateTypeMap codec).lookup predicateType = some predicateURI)
    (decoded : decodedPayload att = .ok (.ok bytes))
    (parsed : Statement.unmarshal bytes = .ok statement)
    (other : statement.predicateType ≠ predicateURI) :
    attestationToPayloadJSON codec predicateType att = .ok (.ok []) := by
  unfold attestationToPayloadJSON
  simp only [known, decoded, parsed, bind, Except.bind]
  rw [if_pos other]

/-- Without an error of a policy, every engine with policies accepts. -/
theorem policyErrors_eq_nil {engines : Engines} {payload : Bytes} :
    policyErrors engines cuePolicies regoPolicies payload = [] ↔
      (cuePolicies ≠ [] → cueValidateJSON engines payload cuePolicies = none) ∧
      (regoPolicies ≠ [] → regoValidateJSON engines payload regoPolicies = []) := by
  unfold policyErrors
  simp only [List.append_eq_nil_iff]
  refine and_congr ?_ ?_
  · cases cuePolicies <;> simp [Option.toList_eq_nil_iff]
  · cases regoPolicies <;> simp

/-- The loop over the attestations reports no error only if every one is converted, and those
of the requested type are accepted by the policies. -/
theorem validationErrors_eq_nil {verified : List Signature}
    (run : validationErrors env predicateType cuePolicies regoPolicies verified = .ok (.ok [])) :
    ∀ att ∈ verified, HasType env.codec predicateType att →
      PassedPolicies env predicateType cuePolicies regoPolicies att := by
  induction verified with
  | nil => exact fun _ member => (List.not_mem_nil member).elim
  | cons vp rest ih =>
    obtain ⟨outcome, converted, run⟩ := bind_eq_ok.mp run
    cases outcome with
    | error err => cases run
    | ok payload =>
      obtain ⟨more, looped, run⟩ := bind_eq_ok.mp run
      cases more with
      | error err => cases run
      | ok more =>
        have silent := Except.ok.inj (Except.ok.inj run)
        obtain ⟨own, others⟩ := List.append_eq_nil_iff.mp silent
        subst others
        intro att member typed
        rcases List.mem_cons.mp member with rfl | member
        · have given := (attestationToPayloadJSON_nonempty converted).mpr typed
          rw [if_neg (by simpa using given)] at own
          exact ⟨payload, converted, given, policyErrors_eq_nil.mp own⟩
        · exact ih looped att member typed

/-- An attestation of which the policies are given nothing has no errors. -/
theorem validationErrors_skipped
    (skipped : attestationToPayloadJSON env.codec predicateType att = .ok (.ok [])) :
    validationErrors env predicateType cuePolicies regoPolicies [att] = .ok (.ok []) := by
  unfold validationErrors
  rw [skipped]
  rfl

theorem splitPolicies_complete {policies : List String}
    (split : splitPolicies policies = .ok (cuePolicies, regoPolicies)) :
    ∀ policy ∈ policies, policy ∈ cuePolicies ∨ policy ∈ regoPolicies := by
  induction policies generalizing cuePolicies regoPolicies with
  | nil => exact fun _ member => (List.not_mem_nil member).elim
  | cons policy rest ih =>
    intro other member
    unfold splitPolicies at split
    cases parts : splitPolicies rest with
    | error err =>
      simp only [parts, Except.map] at split
      split at split
      · cases split
      · split at split <;> cases split
    | ok parts' =>
      obtain ⟨cueRest, regoRest⟩ := parts'
      simp only [parts, Except.map] at split
      split at split
      · cases split
        rcases List.mem_cons.mp member with rfl | member
        · exact .inr List.mem_cons_self
        · exact (ih parts other member).imp_right (List.mem_cons_of_mem policy)
      · split at split
        · cases split
          rcases List.mem_cons.mp member with rfl | member
          · exact .inl List.mem_cons_self
          · exact (ih parts other member).imp_left (List.mem_cons_of_mem policy)
        · cases split

/-- An image that passes has verified attestations on which no policy reports an error. -/
theorem execImage_passes {after : CheckOpts} {imageRef : String}
    (run : execImage env c co imageRef = .ok (after, none)) :
    ∃ verified flag cuePolicies regoPolicies,
      verifiedAttestations env c co imageRef = .ok (after, verified, flag, none) ∧
      splitPolicies c.policies = .ok (cuePolicies, regoPolicies) ∧
      validationErrors env c.predicateType cuePolicies regoPolicies verified = .ok (.ok []) := by
  obtain ⟨⟨after', verified, flag, err⟩, fetched, run⟩ := bind_eq_ok.mp run
  cases err with
  | some err => cases run
  | none =>
    dsimp only at run
    split at run
    · cases run
    · rename_i cuePolicies regoPolicies parts
      obtain ⟨outcome, looped, run⟩ := bind_eq_ok.mp run
      cases outcome with
      | error err => cases run
      | ok errs =>
        dsimp only at run
        split at run
        · cases run
        · rename_i silent
          cases run
          have quiet : errs = [] := List.length_eq_zero_iff.mp (Nat.eq_zero_of_not_pos silent)
          exact ⟨verified, flag, cuePolicies, regoPolicies, fetched, parts, quiet ▸ looped⟩

/-- An image passes if no policy reports an error on its verified attestations. -/
theorem execImage_of_silent {after : CheckOpts} {imageRef : String} {verified : List Signature}
    {flag : Bool}
    (fetched : verifiedAttestations env c co imageRef = .ok (after, verified, flag, none))
    (parts : splitPolicies c.policies = .ok (cuePolicies, regoPolicies))
    (silent : validationErrors env c.predicateType cuePolicies regoPolicies verified =
      .ok (.ok [])) :
    execImage env c co imageRef = .ok (after, none) := by
  unfold execImage
  simp only [fetched, parts, silent, bind, Except.bind]
  rfl

/-- What is verified for an image: its attestations, which can be nil, and its digest. -/
def entityOf (env : Env) (c : VerifyAttestationCommand) (co : CheckOpts) (imageRef : String) :
    Except GoError (Option Verify.Signatures × Hash) :=
  let required : Except GoError Unit :=
    if co.rootCerts.isNone && co.sigVerifier.isNone then
      .error ⟨"one of verifier or root certs is required"⟩
    else .ok ()
  if c.localImage then do
    required
    let se ← env.registry.signedImageIndex imageRef
    let h ← se.digest
    let atts ← se.attestations
    .ok (atts, h)
  else do
    let ref ← env.registry.parseReference imageRef
    required
    let (se, h) ← getSignedEntity env.registry ref co.registryClientOpts
    let atts ← se.attestations
    .ok (some atts, h)

/-- The verified attestations of an image are those of its entity. -/
theorem verifiedAttestations_eq {imageRef : String} :
    verifiedAttestations env c co imageRef =
      match entityOf env c co imageRef with
      | .error err => .ok (.failed co err)
      | .ok (atts, h) =>
        deref atts >>= fun atts => verifyImageAttestations env.platform atts h co := by
  unfold verifiedAttestations verifyLocalImageAttestations verifyImageAttestationsOf entityOf
  cases c.localImage with
  | true =>
    simp only [if_true]
    cases co.rootCerts.isNone && co.sigVerifier.isNone with
    | true => rfl
    | false =>
      simp only [Bool.false_eq_true, if_false, bind, Except.bind]
      cases env.registry.signedImageIndex imageRef with
      | error err => rfl
      | ok se =>
        cases digest : se.digest with
        | error err => simp only [digest]
        | ok h =>
          simp only [digest]
          cases se.attestations <;> rfl
  | false =>
    simp only [Bool.false_eq_true, if_false, bind, Except.bind]
    cases env.registry.parseReference imageRef with
    | error err => rfl
    | ok ref =>
      cases co.rootCerts.isNone && co.sigVerifier.isNone with
      | true => rfl
      | false =>
        simp only [Bool.false_eq_true, if_false]
        cases getSignedEntity env.registry ref co.registryClientOpts with
        | error err => rfl
        | ok found =>
          obtain ⟨se, h⟩ := found
          dsimp only
          cases se.attestations <;> rfl

theorem verifiedAttestations_of_entity {imageRef : String} {atts : Verify.Signatures} {h : Hash}
    (entity : entityOf env c co imageRef = .ok (some atts, h)) :
    verifiedAttestations env c co imageRef = verifyImageAttestations env.platform atts h co := by
  rw [verifiedAttestations_eq, entity]
  rfl

/-- The attestations of an image are the same whatever intermediate certificates an earlier
image has left in the options. -/
theorem verifiedAttestations_withPool {pool : Option CertPool} {after : CheckOpts}
    {imageRef : String} {list : List Signature} {flag : Bool}
    (run : verifiedAttestations env c (withPool co pool) imageRef =
      .ok (after, list, flag, none)) :
    (∃ pool, after = withPool co pool) ∧
      ∃ after' flag', verifiedAttestations env c co imageRef =
        .ok (after', list, flag', none) := by
  have same : entityOf env c (withPool co pool) imageRef = entityOf env c co imageRef := rfl
  rw [verifiedAttestations_eq, same] at run
  rw [verifiedAttestations_eq]
  cases found : entityOf env c co imageRef with
  | error err => simp [found, Outcome.failed] at run
  | ok entity =>
    obtain ⟨atts, h⟩ := entity
    simp only [found, verifyImageAttestations_eq] at run ⊢
    obtain ⟨list, given, run⟩ := bind_eq_ok.mp run
    obtain ⟨kept, after', flag', again⟩ := verifyEntries_withPool run
    exact ⟨kept, after', flag', bind_eq_ok.mpr ⟨list, given, again⟩⟩

/-- What a run should establish for an image with these verified attestations: one of them has
the requested type, and each that has it was given to every policy and accepted. -/
def NotVacuous (env : Env) (predicateType : String) (cuePolicies regoPolicies : List String)
    (verified : List Signature) : Prop :=
  (∃ att ∈ verified, HasType env.codec predicateType att) ∧
    ∀ att ∈ verified, HasType env.codec predicateType att →
      PassedPolicies env predicateType cuePolicies regoPolicies att

/-- For every image of a loop that succeeds, the attestations of the requested type have passed
the policies. -/
theorem execImages_passes (co : CheckOpts) {images : List String} (pool : Option CertPool)
    (parts : splitPolicies c.policies = .ok (cuePolicies, regoPolicies))
    (run : execImages env c (withPool co pool) images = .ok none) :
    ∀ imageRef ∈ images, ∃ after verified flag,
      verifiedAttestations env c co imageRef = .ok (after, verified, flag, none) ∧
      ∀ att ∈ verified, HasType env.codec c.predicateType att →
        PassedPolicies env c.predicateType cuePolicies regoPolicies att := by
  induction images generalizing pool with
  | nil => exact fun _ member => (List.not_mem_nil member).elim
  | cons first rest ih =>
    obtain ⟨⟨after, err⟩, passed, run⟩ := bind_eq_ok.mp run
    cases err with
    | some err => cases run
    | none =>
      obtain ⟨verified, flag, cuePolicies', regoPolicies', fetched, parts', silent⟩ :=
        execImage_passes passed
      cases parts.symm.trans parts'
      obtain ⟨⟨pool', rfl⟩, after', flag', fetched'⟩ := verifiedAttestations_withPool fetched
      intro imageRef member
      rcases List.mem_cons.mp member with rfl | member
      · exact ⟨after', verified, flag', fetched', validationErrors_eq_nil silent⟩
      · exact ih pool' run imageRef member

/-- A typed codec that writes an empty object. -/
def sampleTyped : TypedCodec where
  unmarshal _ := .ok .null
  marshal _ := .ok [123, 125]
  nonempty := by
    intro _ _ written
    cases written
    simp

/-- The statement types of the sample. -/
def sampleCodec : StatementCodec where
  slsaURI := "slsaprovenance"
  spdxURI := "spdx"
  linkURI := "link"
  marshalStatement _ := .ok [123, 125]
  nonempty := by
    intro _ _ written
    cases written
    simp
  link := sampleTyped
  provenance := sampleTyped
  spdx := sampleTyped
  vuln := sampleTyped

/-- The statement of a vulnerability scan of the sample image. -/
def vulnStatement : Json :=
  .obj [("predicateType", .str cosignVulnProvenanceV01),
    ("subject", .arr [.obj [("digest", .obj [("sha256", .str "00")])]])]

/-- An attestation with that statement, signed by the sample signer. -/
def vulnAttestation : Signature :=
  { sampleLayer "" none none with
    payload := .ok (Json.marshal (.obj [("payloadType", .str intotoPayloadType),
      ("payload", .str (Base64.stdEncode (Json.marshal vulnStatement))),
      ("signatures", .arr [.obj [("sig", .str "AQ==")]])])) }

/-- An environment with one image, which has that attestation, and a policy that accepts
nothing. -/
def vulnEnv : Env where
  platform := samplePlatform
  registry := {
    parseReference := .ok
    signedEntity := fun _ _ => .ok ⟨.ok sampleImage, .ok (.ok []), .ok (.ok [vulnAttestation])⟩
    signedImageIndex := fun _ => .error ⟨"no such file or directory"⟩ }
  codec := sampleCodec
  engines := {
    loadInstances := fun _ => [⟨none, .ok fun _ => some ⟨"explicit error (_|_ literal) in source"⟩⟩]
    prepareForEval := fun _ => .error ⟨"no such file or directory"⟩ }
  clientOpts := .ok []
  newRekorClient _ := .error ⟨"unsupported"⟩
  fulcioRoots := CertPool.empty
  publicKeyFromKeyRef _ := .ok sampleVerifier
  getKeyWithSlot _ := .error ⟨"unsupported"⟩
  loadCertFromFileOrURL _ := .error ⟨"unsupported"⟩
  loadCertChainFromFileOrURL _ := .error ⟨"unsupported"⟩

/-- The command asks for custom attestations. -/
def customCommand : VerifyAttestationCommand where
  keyRef := "cosign.pub"
  policies := ["deny.cue"]

/-- The options of the command. -/
def customOpts : CheckOpts where
  claimVerifier := some intotoSubjectClaimVerifier
  sigVerifier := some sampleVerifier

/-- The envelope of the sample signer around a statement. -/
def sampleEnvelope (statement : Bytes) : Json :=
  .obj [("payloadType", .str intotoPayloadType), ("payload", .str (Base64.stdEncode statement)),
    ("signatures", .arr [.obj [("sig", .str "AQ==")]])]

section

variable {statement : Bytes} (carried : att.payload = .ok (Json.marshal (sampleEnvelope statement)))

theorem writable_sampleEnvelope (statement : Bytes) :
    Json.Writable Json.maxNestingDepth (sampleEnvelope statement) :=
  ⟨by decide, trivial, trivial, ⟨by decide, ⟨by decide, trivial, trivial⟩, trivial⟩, trivial⟩

theorem unmarshal_sampleEnvelope (statement : Bytes) :
    Envelope.unmarshal (Json.marshal (sampleEnvelope statement)) =
      .ok ⟨intotoPayloadType, Base64.stdEncode statement, [⟨"", "AQ=="⟩]⟩ := by
  unfold Envelope.unmarshal
  rw [unmarshal_marshal (writable_sampleEnvelope statement)]
  rfl

include carried

theorem sampleEnvelope_verified :
    verifyOCIAttestation samplePlatform sampleVerifier att = none := by
  have body : Envelope.decodePayload
      ⟨intotoPayloadType, Base64.stdEncode statement, [⟨"", "AQ=="⟩]⟩ = some statement := by
    unfold Envelope.decodePayload
    rw [Base64.stdDecode_stdEncode]
  unfold verifyOCIAttestation
  simp only [carried, unmarshal_sampleEnvelope, ne_eq, not_true_eq_false, if_false]
  show sampleVerifyEnvelope _ _ = none
  unfold sampleVerifyEnvelope
  rw [body]
  rfl

theorem sampleEnvelope_decoded : decodedPayload att = .ok (.ok statement) := by
  rw [decodedPayload_eq_ok carried (Json.parse_marshal (writable_sampleEnvelope statement))]
  exact ⟨rfl, Base64.stdEncode statement, rfl, Base64.stdDecode_stdEncode statement⟩

theorem sampleEnvelope_subject {st : Statement} {digest : Hash} {dgst : String}
    (parsed : Statement.unmarshal statement = .ok st)
    (about : st.subject = [⟨"", [("sha256", dgst)]⟩]) (same : "sha256:" ++ dgst = digest.string) :
    intotoSubjectClaimVerifier att digest none = none := by
  have bytes : subjectBytes att = .ok statement := by
    unfold subjectBytes
    simp only [carried, unmarshal_sampleEnvelope, Base64.stdDecode_stdEncode]
  unfold intotoSubjectClaimVerifier
  simp only [bytes, parsed, about]
  simp [stringMapValue, same]

end

/-- The claims of an entry hold if the claim verifier accepts it. -/
theorem checkClaims_accepted
    {claimVerifier : Signature → Hash → Option (GoMap String) → Option GoError} {h : Hash}
    (given : co.claimVerifier = some claimVerifier)
    (accepted : claimVerifier att h co.annotations = none) : checkClaims att h co = none := by
  unfold checkClaims
  rw [given]
  exact accepted

theorem vulnAttestation_carries :
    vulnAttestation.payload =
      .ok (Json.marshal (sampleEnvelope (Json.marshal vulnStatement))) := rfl

theorem unmarshal_vulnStatement :
    Statement.unmarshal (Json.marshal vulnStatement) =
      .ok ⟨"", cosignVulnProvenanceV01, [⟨"", [("sha256", "00")]⟩], .null⟩ := by
  have writable : Json.Writable Json.maxNestingDepth vulnStatement :=
    ⟨by decide, trivial, ⟨by decide, ⟨by decide, ⟨by decide, trivial, trivial⟩, trivial⟩, trivial⟩,
      trivial⟩
  unfold Statement.unmarshal
  rw [unmarshal_marshal writable]
  rfl

theorem vulnAttestation_type : ¬HasType sampleCodec predicateCustom vulnAttestation := by
  rw [hasType_iff rfl (sampleEnvelope_decoded vulnAttestation_carries) unmarshal_vulnStatement]
  decide +kernel

theorem vulnAttestation_verified : ∃ after flag,
    verifiedAttestations vulnEnv customCommand customOpts "image" =
      .ok (after, [vulnAttestation], flag, none) := by
  have claims : checkClaims vulnAttestation sampleImage customOpts = none :=
    checkClaims_accepted rfl
      (sampleEnvelope_subject vulnAttestation_carries unmarshal_vulnStatement rfl rfl)
  have passes : passesAlone samplePlatform "attestation" (verifyOCIAttestation samplePlatform)
      sampleImage customOpts vulnAttestation = true := by
    apply decide_eq_true
    apply accepts_entryCheck.mpr
    exact ⟨sampleVerifier, false, .inl rfl, sampleEnvelope_verified vulnAttestation_carries, claims,
      .nothing rfl rfl⟩
  have entity : entityOf vulnEnv customCommand customOpts "image" =
      .ok (some (.ok [vulnAttestation]), sampleImage) := rfl
  rw [verifiedAttestations_of_entity entity, verifyImageAttestations_eq]
  exact verifyEntries_all (List.cons_ne_nil _ _) (List.forall_mem_singleton.mpr passes)

theorem vulnEnv_run : exec vulnEnv customCommand ["image"] = .ok none := by
  obtain ⟨after, flag, verified⟩ := vulnAttestation_verified
  have other : cosignVulnProvenanceV01 ≠ cosignCustomProvenanceV01 := by decide
  have skipped : attestationToPayloadJSON sampleCodec predicateCustom vulnAttestation =
      .ok (.ok []) :=
    attestationToPayloadJSON_other rfl (sampleEnvelope_decoded vulnAttestation_carries)
      unmarshal_vulnStatement other
  have parts : splitPolicies customCommand.policies = .ok (["deny.cue"], []) := by decide +kernel
  have passed := execImage_of_silent verified parts (validationErrors_skipped skipped)
  show execImages vulnEnv customCommand customOpts ["image"] = _
  unfold execImages
  rw [passed]
  rfl

/-- The same environment with a policy that accepts everything. -/
def acceptingEnv : Env :=
  { vulnEnv with
    engines := { vulnEnv.engines with loadInstances := fun _ => [⟨none, .ok fun _ => none⟩] } }

/-- The command asks for vulnerability scans. -/
def vulnCommand : VerifyAttestationCommand :=
  { customCommand with predicateType := predicateVuln, policies := ["allow.cue"] }

theorem vulnAttestation_requested : HasType sampleCodec predicateVuln vulnAttestation :=
  (hasType_iff rfl (sampleEnvelope_decoded vulnAttestation_carries) unmarshal_vulnStatement).mpr rfl

theorem vulnAttestation_accepted :
    validationErrors acceptingEnv predicateVuln ["allow.cue"] [] [vulnAttestation] =
      .ok (.ok []) := by
  have known : (predicateTypeMap sampleCodec).lookup predicateVuln = some cosignVulnProvenanceV01 :=
    rfl
  have converted : attestationToPayloadJSON sampleCodec predicateVuln vulnAttestation =
      .ok (.ok [123, 125]) := by
    unfold attestationToPayloadJSON
    simp only [known, sampleEnvelope_decoded vulnAttestation_carries, unmarshal_vulnStatement,
      bind, Except.bind]
    rfl
  unfold validationErrors
  show (attestationToPayloadJSON sampleCodec _ _ >>= _) = _
  rw [converted]
  rfl

theorem vulnCommand_parts : splitPolicies vulnCommand.policies = .ok (["allow.cue"], []) := by
  decide +kernel

theorem acceptingEnv_run : exec acceptingEnv vulnCommand ["image"] = .ok none := by
  obtain ⟨after, flag, verified⟩ := vulnAttestation_verified
  have passed : execImage acceptingEnv vulnCommand customOpts "image" = .ok (after, none) :=
    execImage_of_silent verified vulnCommand_parts vulnAttestation_accepted
  show execImages acceptingEnv vulnCommand customOpts ["image"] = _
  unfold execImages
  rw [passed]
  rfl

end Cosign.Verif
