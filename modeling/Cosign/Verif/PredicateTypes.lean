import Cosign.Cli.Attest
import Cosign.Go.Results
import Cosign.Verif.Attestor
import Cosign.Verif.Copy

/-!
# Predicate types of attest and verify-attestation

What `GenerateStatement` makes for a predicate type is said once (`Generated`). For the names of
`PredicateTypeMap` the verifying side reads the statement into the type that it was written from,
and gives the policies the text that was signed. For a URI, which attest accepts as well, it returns
an error.
-/
namespace Cosign.Verif

open Cosign.Go Cosign.Encoding Cosign.Oci Cosign.Verify Cosign.Policy Cosign.Sign Cosign.Cli
open Cosign.Remote (Digest)

variable {kit : PredicateKit} {p : Platform} {c : AttestCommand} {att : OciSignature}
  {type uri repo digest : String} {predicate : Json}

/-! ## What is generated -/

/-- What `GenerateStatement` makes for a predicate type: the URI and the tree of the predicate. -/
inductive Generated (kit : PredicateKit) : String → String → Json → Prop where
  /-- The data as a text, with a time. -/
  | custom (data timestamp : String) :
    Generated kit predicateCustom cosignCustomProvenanceV01 (cosignPredicate data timestamp)
  /-- A provenance predicate. -/
  | slsa (value : kit.Provenance) :
    Generated kit predicateSLSA kit.slsaURI (kit.provenance.write value)
  /-- The data as a text. -/
  | spdx (data : String) : Generated kit predicateSPDX kit.spdxURI (cosignPredicate data "")
  | link (value : kit.Link) : Generated kit predicateLink kit.linkURI (kit.link.write value)
  /-- A vulnerability scan. -/
  | vuln (value : CosignVulnPredicate kit.times) :
    Generated kit predicateVuln cosignVulnProvenanceV01 (value.write kit.float)
  /-- Another type is its own URI. -/
  | other (type : String) (predicate : Json)
      (unnamed : (predicateTypeMap kit.codec).lookup type = none) :
    Generated kit type type predicate

theorem lookup_eq_none (custom : type ≠ predicateCustom) (slsa : type ≠ predicateSLSA)
    (spdx : type ≠ predicateSPDX) (link : type ≠ predicateLink) (vuln : type ≠ predicateVuln) :
    (predicateTypeMap kit.codec).lookup type = none := by
  rw [List.lookup_eq_none_iff]
  simp [predicateTypeMap, custom, slsa, spdx, link, vuln]

theorem generated_of_ok {opts : GenerateOpts} {sh : GeneratedStatement}
    (ran : generateStatement kit opts = .ok sh) :
    ∃ uri predicate, Generated kit opts.type uri predicate ∧
      sh = generateStatementHeader kit opts.digest opts.repo uri predicate := by
  obtain ⟨raw, _, ran⟩ := bind_eq_value.mp ran
  by_cases slsa : opts.type = "slsaprovenance"
  · rw [if_pos slsa] at ran
    obtain ⟨_, _, ran⟩ := bind_eq_value.mp ran
    obtain ⟨value, _, ran⟩ := bind_eq_value.mp ran
    cases ran
    rw [slsa]
    exact ⟨_, _, .slsa value, rfl⟩
  rw [if_neg slsa] at ran
  by_cases spdx : opts.type = "spdx"
  · rw [if_pos spdx] at ran
    cases ran
    rw [spdx]
    exact ⟨_, _, .spdx _, rfl⟩
  rw [if_neg spdx] at ran
  by_cases link : opts.type = "link"
  · rw [if_pos link] at ran
    obtain ⟨_, _, ran⟩ := bind_eq_value.mp ran
    obtain ⟨value, _, ran⟩ := bind_eq_value.mp ran
    cases ran
    rw [link]
    exact ⟨_, _, .link value, rfl⟩
  rw [if_neg link] at ran
  by_cases vuln : opts.type = "vuln"
  · rw [if_pos vuln] at ran
    obtain ⟨value, _, ran⟩ := bind_eq_value.mp ran
    cases ran
    rw [vuln]
    exact ⟨_, _, .vuln value, rfl⟩
  rw [if_neg vuln] at ran
  obtain ⟨predicate, made, ran⟩ := bind_eq_value.mp ran
  cases ran
  by_cases custom : opts.type = "custom"
  · have typeIs : customType opts = cosignCustomProvenanceV01 := if_neg (not_not_intro custom)
    rw [typeIs] at made ⊢
    cases made
    rw [custom]
    exact ⟨_, _, .custom _ _, rfl⟩
  · have typeIs : customType opts = opts.type := if_pos custom
    rw [typeIs]
    exact ⟨_, _, .other _ predicate (lookup_eq_none custom slsa spdx link vuln), rfl⟩

/-- The URI of the statement is the one that the flag resolves to. -/
theorem Generated.uri_eq {resolved : String} (generated : Generated kit type uri predicate)
    (ran : parsePredicateType kit type = .ok resolved) : uri = resolved := by
  unfold parsePredicateType at ran
  cases generated with
  | other _ _ unnamed =>
    rw [unnamed] at ran
    cases parsed : kit.parseRequestURI type with
    | some err =>
      simp only [parsed] at ran
      cases ran
    | none =>
      simp only [parsed] at ran
      exact Except.ok.inj ran
  | custom _ _ => exact Except.ok.inj ran
  | slsa _ => exact Except.ok.inj ran
  | spdx _ => exact Except.ok.inj ran
  | link _ => exact Except.ok.inj ran
  | vuln _ => exact Except.ok.inj ran

theorem Generated.lookup_eq (generated : Generated kit type uri predicate)
    (named : (predicateTypeMap kit.codec).lookup type ≠ none) :
    (predicateTypeMap kit.codec).lookup type = some uri := by
  cases generated with
  | other _ _ unnamed => exact absurd unnamed named
  | custom _ _ => rfl
  | slsa _ => rfl
  | spdx _ => rfl
  | link _ => rfl
  | vuln _ => rfl

/-! ## What is read -/

/-- The statement as every reader finds its header. -/
abbrev header (kit : PredicateKit) (digest repo uri : String) (predicate : Json) :
    GeneratedStatement :=
  generateStatementHeader kit digest repo uri predicate

theorem unmarshal_statement (fits : fitsInterface predicate = true)
    (writable : Json.Writable Json.maxNestingDepth (header kit digest repo uri predicate).json) :
    Statement.unmarshal (Json.marshal (header kit digest repo uri predicate).json) =
      .ok ⟨kit.statementType, uri, [⟨repo, [("sha256", digest)]⟩], predicate⟩ := by
  unfold Statement.unmarshal
  rw [unmarshal_marshal writable]
  have stored : storeAny (fun filled predicate => { filled with predicate })
      (Statement.mk kit.statementType uri [⟨repo, [("sha256", digest)]⟩] .null) predicate =
        .ok ⟨kit.statementType, uri, [⟨repo, [("sha256", digest)]⟩], predicate⟩ := by
    unfold storeAny
    rw [if_pos fits]
  simp only [GeneratedStatement.json, fillStruct]
  refine Eq.trans (fillMembers_cons rfl rfl) ?_
  refine Eq.trans (fillMembers_cons rfl rfl) ?_
  refine Eq.trans (fillMembers_cons rfl rfl) ?_
  exact fillMembers_cons rfl stored

/-- A statement is read into the type that it was written from, and is written as it was. -/
theorem convert_statement {α : Type} {of : PredicateType α} {value : α} (target name : String)
    (wrote : of.write value = predicate)
    (writable : Json.Writable Json.maxNestingDepth (header kit digest repo uri predicate).json) :
    (TypedStatement.codec of target).convert name
        (Json.marshal (header kit digest repo uri predicate).json) =
      .ok (Json.marshal (header kit digest repo uri predicate).json) := by
  obtain ⟨again, filled, same⟩ := of.rereads value
  rw [wrote] at filled same
  have stored : (of.fill of.zero predicate).map
      (fun predicate => TypedStatement.mk kit.statementType uri [⟨repo, [("sha256", digest)]⟩]
        predicate) =
        .ok ⟨kit.statementType, uri, [⟨repo, [("sha256", digest)]⟩], again⟩ := by
    rw [filled]
    rfl
  have read : TypedStatement.unmarshal of target
      (Json.marshal (header kit digest repo uri predicate).json) =
        .ok ⟨kit.statementType, uri, [⟨repo, [("sha256", digest)]⟩], again⟩ := by
    unfold TypedStatement.unmarshal
    rw [unmarshal_marshal writable]
    simp only [GeneratedStatement.json, fillStruct]
    refine Eq.trans (fillMembers_cons rfl rfl) ?_
    refine Eq.trans (fillMembers_cons rfl rfl) ?_
    refine Eq.trans (fillMembers_cons rfl rfl) ?_
    exact fillMembers_cons rfl stored
  have tree : TypedStatement.json of
      ⟨kit.statementType, uri, [⟨repo, [("sha256", digest)]⟩], again⟩ =
        (header kit digest repo uri predicate).json := by
    unfold TypedStatement.json
    rw [same]
    rfl
  have unmarshalled : (TypedStatement.codec of target).unmarshal
      (Json.marshal (header kit digest repo uri predicate).json) =
        .ok (header kit digest repo uri predicate).json := by
    simp only [TypedStatement.codec, read, Except.map, tree]
  unfold TypedCodec.convert
  rw [unmarshalled]
  rfl

theorem interfaceJson_cosignPredicate (format : String → String) (data timestamp : String) :
    interfaceJson format (cosignPredicate data timestamp) = cosignPredicate data timestamp := by
  have ascend : [("Data", Json.str data), ("Timestamp", Json.str timestamp)].Pairwise
      fun left right => left.1 < right.1 := by
    rw [List.pairwise_pair]
    show "Data" < "Timestamp"
    decide +kernel
  unfold cosignPredicate
  simp only [interfaceJson, interfaceMembers]
  rw [mapMembers_of_ascend ascend]

/-- **The document for the policies is the statement.** For the names of the table, what is given
to the policies is the text that was signed. -/
theorem Generated.converts (generated : Generated kit type uri predicate)
    (named : (predicateTypeMap kit.codec).lookup type ≠ none)
    (writable : Json.Writable Json.maxNestingDepth (header kit digest repo uri predicate).json) :
    convertStatement kit.codec type
        ⟨kit.statementType, uri, [⟨repo, [("sha256", digest)]⟩], predicate⟩
        (Json.marshal (header kit digest repo uri predicate).json) =
      .ok (Json.marshal (header kit digest repo uri predicate).json) := by
  unfold convertStatement
  cases generated with
  | custom data timestamp =>
    rw [if_pos rfl]
    simp only [PredicateKit.codec, interfaceJson_cosignPredicate]
    rfl
  | slsa value =>
    rw [if_neg (by decide +kernel), if_neg (by decide +kernel), if_pos rfl]
    exact convert_statement _ _ rfl writable
  | spdx data =>
    rw [if_neg (by decide +kernel), if_neg (by decide +kernel), if_neg (by decide +kernel),
      if_pos rfl]
    have fits : fitsInterface (cosignPredicate data "") = true := rfl
    have wrote : (anyPredicate kit.float).write ⟨cosignPredicate data "", fits⟩ =
        cosignPredicate data "" := interfaceJson_cosignPredicate _ _ _
    exact convert_statement _ _ wrote writable
  | link value =>
    rw [if_neg (by decide +kernel), if_pos rfl]
    exact convert_statement _ _ rfl writable
  | vuln value =>
    rw [if_neg (by decide +kernel), if_neg (by decide +kernel), if_neg (by decide +kernel),
      if_neg (by decide +kernel), if_pos rfl]
    have wrote : (vulnPredicate kit.float kit.times).write value = value.write kit.float := rfl
    exact convert_statement _ _ wrote writable
  | other _ _ unnamed => exact absurd unnamed named

/-- What is generated for a name of the table fits an `interface{}`. -/
theorem Generated.fits (generated : Generated kit type uri predicate)
    (named : (predicateTypeMap kit.codec).lookup type ≠ none) :
    fitsInterface predicate = true := by
  cases generated with
  | custom data timestamp => rfl
  | slsa value => exact kit.provenance.fits value
  | spdx data => rfl
  | link value => exact kit.link.fits value
  | vuln value => exact value.write_fits kit.float
  | other _ _ unnamed => exact absurd unnamed named

/-! ## The two commands -/

/-- The envelope of a statement. -/
def statementEnvelope (text sig : Bytes) : Envelope :=
  ⟨intotoPayloadType, Base64.stdEncode text, [⟨"", Base64.stdEncode sig⟩]⟩

theorem attestPayload_eq_ok {sv : SignerVerifier} {signedPayload : Bytes} {image : String × Digest}
    (known : c.digest = .ok image) (made : attestPayload kit p c = .ok (sv, signedPayload)) :
    ∃ sh sig, generateStatement kit (c.generateOpts image.1 image.2) = .ok sh ∧
      signedPayload = Json.marshal (envelopeJson
        (statementEnvelope (Json.marshal (GeneratedStatement.json sh)) sig)) := by
  obtain ⟨_, _, made⟩ := bind_eq_value.mp made
  obtain ⟨_, _, made⟩ := bind_eq_value.mp made
  obtain ⟨found, foundIs, made⟩ := bind_eq_value.mp made
  cases known.symm.trans foundIs
  obtain ⟨signer, _, made⟩ := bind_eq_value.mp made
  obtain ⟨sh, generated, made⟩ := bind_eq_value.mp made
  obtain ⟨signed, wrapped, made⟩ := bind_eq_value.mp made
  cases made
  obtain ⟨sig, _, signedIs⟩ := bind_eq_value.mp (mapError_eq_ok.mp wrapped)
  cases signedIs
  exact ⟨sh, sig, generated, rfl⟩

theorem attest_eq_ok {image : String × Digest} (known : c.digest = .ok image)
    (attested : attest kit p c = .ok (.ok att)) :
    ∃ sh sig, generateStatement kit (c.generateOpts image.1 image.2) = .ok sh ∧
      att.payload = .ok (Json.marshal (envelopeJson
        (statementEnvelope (Json.marshal (GeneratedStatement.json sh)) sig))) := by
  unfold attest at attested
  cases made : attestPayload kit p c with
  | error err =>
    simp only [made] at attested
    cases attested
  | ok found =>
    obtain ⟨sv, signedPayload⟩ := found
    simp only [made] at attested
    obtain ⟨outcome, _, attested⟩ := bind_eq_ok.mp attested
    cases outcome with
    | error err => cases attested
    | ok bundle =>
      obtain ⟨built, ran, attested⟩ := bind_eq_ok.mp attested
      cases attested
      obtain ⟨_, _, ran⟩ := bind_eq_ok.mp ran
      cases ran
      obtain ⟨sh, sig, generated, signedIs⟩ := attestPayload_eq_ok known made
      exact ⟨sh, sig, generated, congrArg Except.ok signedIs⟩

theorem envelope_read {signature : Signature} {text sig : Bytes}
    (payload : signature.payload = .ok (Json.marshal (envelopeJson (statementEnvelope text sig)))) :
    decodedPayload signature = .ok (.ok text) ∧ subjectBytes signature = .ok text := by
  have parsed : Json.parse (Json.marshal (envelopeJson (statementEnvelope text sig))) =
      some (envelopeJson (statementEnvelope text sig)) :=
    Json.parse_marshal (writable_envelope _)
  constructor
  · apply (decodedPayload_eq_ok payload parsed).mpr
    exact ⟨rfl, _, rfl, Base64.stdDecode_stdEncode text⟩
  · unfold subjectBytes
    simp only [payload, unmarshal_envelope, statementEnvelope, Base64.stdDecode_stdEncode]

/-- An attestation is selected: the policies are given a statement with the URI and the image, and
the subject check accepts the image. -/
structure Selected (kit : PredicateKit) (type uri : String) (h : Hash) (signature : Signature) :
    Prop where
  /-- A document is given to the policies. -/
  document : ∃ payload statement,
    attestationToPayloadJSON kit.codec type signature = .ok (.ok payload) ∧ payload ≠ [] ∧
    Statement.unmarshal payload = .ok statement ∧ statement.predicateType = uri ∧
    ∃ subject ∈ statement.subject, stringMapValue subject.digest "sha256" = some h.hex
  /-- The subject check accepts. -/
  subject : ∀ annotations, intotoSubjectClaimVerifier signature h annotations = none

/-- The statement is nested no deeper than a decoder reads; statements with the predicate as a text
are not. -/
def ShallowStatement (kit : PredicateKit) (opts : GenerateOpts) : Prop :=
  opts.type = predicateCustom ∨ opts.type = predicateSPDX ∨
    ∀ sh, generateStatement kit opts = .ok sh →
      Json.Writable Json.maxNestingDepth (GeneratedStatement.json sh)

/-- A statement with the predicate as a text is not nested deeply. -/
theorem writable_cosignPredicate (data timestamp : String) :
    Json.Writable Json.maxNestingDepth
      (header kit digest repo uri (cosignPredicate data timestamp)).json := by
  have digests : Json.Writable 9997 (stringMapJson [("sha256", digest)]) :=
    ⟨by decide, trivial, trivial⟩
  have subject : Json.Writable 9998 (subjectJson ⟨repo, [("sha256", digest)]⟩) :=
    ⟨by decide, trivial, digests, trivial⟩
  have data : Json.Writable 9999 (cosignPredicate data timestamp) :=
    ⟨by decide, trivial, trivial, trivial⟩
  exact ⟨by decide, trivial, trivial, ⟨by decide, subject, trivial⟩, data, trivial⟩

/-- What is generated with the predicate as a text is not nested deeply. -/
theorem Generated.writable (generated : Generated kit type uri predicate)
    (text : type = predicateCustom ∨ type = predicateSPDX) :
    Json.Writable Json.maxNestingDepth (header kit digest repo uri predicate).json := by
  cases generated with
  | custom data timestamp => exact writable_cosignPredicate data timestamp
  | spdx data => exact writable_cosignPredicate data ""
  | slsa value => exact absurd text (by decide +kernel)
  | link value => exact absurd text (by decide +kernel)
  | vuln value => exact absurd text (by decide +kernel)
  | other _ _ unnamed =>
    cases text with
    | inl custom =>
      rw [custom] at unnamed
      cases unnamed
    | inr spdx =>
      rw [spdx] at unnamed
      cases unnamed

theorem ShallowStatement.writable {opts : GenerateOpts} (shallow : ShallowStatement kit opts)
    (ran : generateStatement kit opts = .ok (header kit digest repo uri predicate))
    (generated : Generated kit opts.type uri predicate) :
    Json.Writable Json.maxNestingDepth (header kit digest repo uri predicate).json := by
  cases shallow with
  | inl custom => exact generated.writable (.inl custom)
  | inr rest =>
    cases rest with
    | inl spdx => exact generated.writable (.inr spdx)
    | inr any => exact any _ ran

theorem attestationToPayloadJSON_generated {signature : Signature} {text : Bytes}
    (generated : Generated kit type uri predicate)
    (named : (predicateTypeMap kit.codec).lookup type = some uri)
    (writable : Json.Writable Json.maxNestingDepth (header kit digest repo uri predicate).json)
    (textIs : Json.marshal (header kit digest repo uri predicate).json = text)
    (read : decodedPayload signature = .ok (.ok text)) :
    attestationToPayloadJSON kit.codec type signature = .ok (.ok text) := by
  have isNamed : (predicateTypeMap kit.codec).lookup type ≠ none := by
    rw [named]
    exact Option.some_ne_none uri
  have statement := unmarshal_statement (generated.fits isNamed) writable
  have converted := generated.converts isNamed writable
  rw [textIs] at statement converted
  unfold attestationToPayloadJSON
  simp only [named]
  refine bind_eq_ok.mpr ⟨.ok text, read, ?_⟩
  simp only [statement, ne_eq, not_true_eq_false, if_false, converted]

theorem subject_accepts {signature : Signature} {text : Bytes} {statement : Statement} {h : Hash}
    (read : subjectBytes signature = .ok text) (parsed : Statement.unmarshal text = .ok statement)
    (subject : statement.subject = [⟨repo, [("sha256", h.hex)]⟩]) (sha256 : h.algorithm = "sha256")
    (annotations : Option (GoMap String)) :
    intotoSubjectClaimVerifier signature h annotations = none := by
  have same : "sha256:" ++ h.hex = h.string := by
    unfold Hash.string
    rw [sha256]
    rfl
  unfold intotoSubjectClaimVerifier
  simp only [read, parsed, subject]
  apply if_pos
  show (("sha256:" ++ h.hex == h.string) || false) = true
  rw [same, beq_self_eq_true]
  rfl

/-- A statement that is nested too deeply is not selected: it cannot be read. -/
theorem not_selected_deep {sh : GeneratedStatement} {limit : Nat} {h : Hash} {sig : Bytes}
    (named : (predicateTypeMap kit.codec).lookup type ≠ none)
    (written : Json.Writable limit (GeneratedStatement.json sh))
    (deep : ¬Json.Writable Json.maxNestingDepth (GeneratedStatement.json sh))
    (payload : att.toSignature.payload = .ok (Json.marshal (envelopeJson
      (statementEnvelope (Json.marshal (GeneratedStatement.json sh)) sig)))) :
    ¬Selected kit type uri h att.toSignature := by
  intro selected
  have ⟨document, _, given, _⟩ := selected.document
  have ⟨policy, _⟩ := envelope_read payload
  have unread : Json.parse (Json.marshal (GeneratedStatement.json sh)) = none :=
    Json.parse_marshal_deep written deep
  unfold attestationToPayloadJSON at given
  cases found : (predicateTypeMap kit.codec).lookup type with
  | none => exact named found
  | some predicateURI =>
    simp only [found, policy, bind, Except.bind, Statement.unmarshal, unmarshal, unread] at given
    cases given

/-- **When verify-attestation selects what attest has made.** For the names of the table, the
attestation is selected under the same name if its statement is not nested too deeply to be read,
and only then. For every URI that attest accepts, the same flag is an error. -/
theorem attest_selected {image : String × Digest} (known : c.digest = .ok image)
    (resolved : parsePredicateType kit c.predicateType = .ok uri)
    (attested : attest kit p c = .ok (.ok att)) :
    ((predicateTypeMap kit.codec).lookup c.predicateType ≠ none →
      ShallowStatement kit (c.generateOpts image.1 image.2) →
        Selected kit c.predicateType uri image.2.hash att.toSignature) ∧
    ((predicateTypeMap kit.codec).lookup c.predicateType ≠ none →
      (∀ sh, generateStatement kit (c.generateOpts image.1 image.2) = .ok sh →
        ∃ limit, Json.Writable limit (GeneratedStatement.json sh)) →
      Selected kit c.predicateType uri image.2.hash att.toSignature →
        ShallowStatement kit (c.generateOpts image.1 image.2)) ∧
    ((predicateTypeMap kit.codec).lookup c.predicateType = none →
      attestationToPayloadJSON kit.codec c.predicateType att.toSignature =
        .ok (.error ⟨"invalid predicate type: " ++ c.predicateType⟩)) := by
  have ⟨sh, sig, ran, payload⟩ := attest_eq_ok known attested
  refine ⟨fun named shallow => ?_, fun named literals selected => ?_, fun unnamed => ?_⟩
  · obtain ⟨made, predicate, generated, shIs⟩ := generated_of_ok ran
    have uriIs := generated.uri_eq resolved
    subst uriIs shIs
    have writable := shallow.writable ran generated
    obtain ⟨policy, subject⟩ := envelope_read payload
    have statement := unmarshal_statement (generated.fits named) writable
    have converted := attestationToPayloadJSON_generated generated (generated.lookup_eq named)
      writable rfl policy
    refine ⟨⟨_, _, converted, ?_, statement, rfl, _, List.mem_singleton_self _, rfl⟩, ?_⟩
    · exact TypedStatement.marshal_obj_ne_nil _
    · exact subject_accepts subject statement rfl image.2.sha256
  · refine .inr (.inr fun other again => ?_)
    cases ran.symm.trans again
    have ⟨limit, written⟩ := literals sh ran
    by_contra deep
    exact not_selected_deep named written deep payload selected
  · unfold attestationToPayloadJSON
    rw [unnamed]

/-- Types of a kit whose predicates are all of interface type and whose times are read as texts. -/
def sampleKit : PredicateKit where
  slsaURI := "https://slsa.dev/provenance/v0.2"
  spdxURI := "predicate/spdx"
  linkURI := "predicate/link"
  statementType := "https://in-toto.io/Statement/v0.1"
  float := ⟨id, fun _ finite => finite, fun _ => rfl⟩
  times :=
    { read := fun
        | .str text => .ok text
        | _ => .error ⟨"Time.UnmarshalJSON: input is not a JSON string"⟩
      zero := "0001-01-01T00:00:00Z"
      rereads := fun _ _ _ => rfl
      zeroReads := rfl }
  Provenance := AnyValue
  provenance := { anyPredicate ⟨id, fun _ finite => finite, fun _ => rfl⟩ with
    tags := ["builder", "buildType", "metadata,omitempty"] }
  Link := AnyValue
  link := anyPredicate ⟨id, fun _ finite => finite, fun _ => rfl⟩
  parseRequestURI text :=
    if "https://".toList.isPrefixOf text.toList then none
    else some ⟨"invalid URI for request"⟩

/-- A run of attest on an empty object with a predicate type. -/
def attestAs (predicateType : String) : AttestCommand where
  keyRef := true
  sk := false
  predicateType
  digest := .ok ("registry.example/app", uniformDigest 'a')
  signer := .ok ⟨none, none, echoSigner⟩
  predicate := .ok [123, 125]
  timestamp := "2022-04-01T00:00:00Z"
  tlogUpload := none

/-- A statement of the custom type is selected. -/
theorem attest_selected_custom : ∃ att,
    attest sampleKit samplePlatform (attestAs "custom") = .ok (.ok att) ∧
    Selected sampleKit "custom" cosignCustomProvenanceV01 (uniformDigest 'a').hash
      att.toSignature := by
  obtain ⟨att, attested⟩ : ∃ att,
      attest sampleKit samplePlatform (attestAs "custom") = .ok (.ok att) := ⟨_, rfl⟩
  have selected := attest_selected rfl rfl attested
  exact ⟨att, attested, selected.1 nofun (.inl rfl)⟩

/-- The URI of the provenance type is accepted by attest and refused by verify-attestation, although
it is in the table. -/
theorem uri_not_selected : ∃ att,
    parsePredicateType sampleKit "https://slsa.dev/provenance/v0.2" =
      .ok "https://slsa.dev/provenance/v0.2" ∧
    attest sampleKit samplePlatform (attestAs "https://slsa.dev/provenance/v0.2") =
      .ok (.ok att) ∧
    attestationToPayloadJSON sampleKit.codec "https://slsa.dev/provenance/v0.2" att.toSignature =
      .ok (.error ⟨"invalid predicate type: https://slsa.dev/provenance/v0.2"⟩) ∧
    ¬Selected sampleKit "https://slsa.dev/provenance/v0.2" "https://slsa.dev/provenance/v0.2"
      (uniformDigest 'a').hash att.toSignature := by
  refine ⟨_, rfl, rfl, rfl, fun selected => ?_⟩
  obtain ⟨payload, statement, given, _⟩ := selected.document
  cases given

end Cosign.Verif
