import Cosign.Encoding.Interface
import Cosign.Policy.Attestation

/-!
# Statements and their predicates

`GenerateStatement` builds an in-toto statement about an image from the bytes of a predicate, which
are decoded into a struct or taken as a text. A statement is written with the predicate as
`json.Marshal` writes the struct. Structs outside the repository are given by what JSON does with
them (`PredicateType`).
-/
namespace Cosign.Sign

open Cosign.Go Cosign.Encoding Cosign.Oci Cosign.Verify Cosign.Policy

/-- What JSON does with a Go type of predicates: values are filled from trees and written as
trees, and what is written is filled and written again, and fits an `interface{}`. -/
structure PredicateType (α : Type) where
  /-- The tags of its fields. -/
  tags : List String
  /-- Its zero value. -/
  zero : α
  /-- Fill a value over what is held. -/
  fill : α → Json → Except GoError α
  /-- The tree that `json.Marshal` writes. -/
  write : α → Json
  /-- What is written is filled again, and is then written as before. -/
  rereads : ∀ value, ∃ again, fill zero (write value) = .ok again ∧ write again = write value
  /-- What is written fits an `interface{}`. -/
  fits : ∀ value, fitsInterface (write value) = true

/-- A predicate that is an `interface{}`. -/
def anyPredicate (float : FloatFormat) : PredicateType AnyValue where
  tags := []
  zero := .nil
  fill := AnyValue.fill
  write := AnyValue.write float
  rereads value := ⟨_, AnyValue.fill_write float _ value, AnyValue.write_again float value⟩
  fits := AnyValue.write_fits float

/-- A statement type: an `in_toto.StatementHeader` and a predicate. -/
structure TypedStatement (α : Type) where
  /-- Type of the statement. -/
  type : String
  /-- URI of the predicate type. -/
  predicateType : String
  /-- What the statement is about. -/
  subject : List Subject
  predicate : α

/-- The tree of a `map[string]string`. -/
def stringMapJson (entries : List (String × String)) : Json :=
  .obj (mapMembers (entries.map fun entry => (entry.1, .str entry.2)))

/-- The tree of a subject. -/
def subjectJson (subject : Subject) : Json :=
  .obj [("name", .str subject.name), ("digest", stringMapJson subject.digest)]

/-- The tree of a slice of subjects; a nil slice is written as null. -/
def subjectsJson : List Subject → Json
  | [] => .null
  | subjects => .arr (subjects.map subjectJson)

namespace TypedStatement

variable {α : Type}

/-- Struct tags of a statement type. -/
def fields (of : PredicateType α) : List (StructField (TypedStatement α)) :=
  [⟨"_type", storeString fun filled text => { filled with type := text }⟩,
    ⟨"predicateType", storeString fun filled text => { filled with predicateType := text }⟩,
    ⟨"subject", storeSlice Subject.fill fun filled subject => { filled with subject }⟩,
    ⟨"predicate", fun filled value =>
      (of.fill filled.predicate value).map fun predicate => { filled with predicate }⟩]

/-- The tree that `json.Marshal` writes for a statement. -/
def json (of : PredicateType α) (statement : TypedStatement α) : Json :=
  .obj [("_type", .str statement.type), ("predicateType", .str statement.predicateType),
    ("subject", subjectsJson statement.subject), ("predicate", of.write statement.predicate)]

/-- `json.Unmarshal` into a statement type. -/
def unmarshal (of : PredicateType α) (target : String) (bytes : Bytes) :
    Except GoError (TypedStatement α) :=
  Encoding.unmarshal (fillStruct target (fields of) ⟨"", "", [], of.zero⟩) bytes

/-- The text of an object is not empty. -/
theorem marshal_obj_ne_nil (members : List (String × Json)) : Json.marshal (.obj members) ≠ [] := by
  unfold Json.marshal
  rw [Json.render]
  exact List.append_ne_nil_of_left_ne_nil (by decide) _

/-- A statement type as the policies read it. -/
def codec (of : PredicateType α) (target : String) : TypedCodec where
  unmarshal bytes := (unmarshal of target bytes).map (json of)
  marshal
    | .obj members => .ok (Json.marshal (.obj members))
    | _ => .error ⟨"json: unsupported type"⟩
  nonempty value text marshalled := by
    cases value with
    | obj members =>
      cases marshalled
      exact marshal_obj_ne_nil members
    | _ => cases marshalled

end TypedStatement

/-! ## The vulnerability predicate -/

/-- JSON of `time.Time`, an instant being given by the text that is written for it. -/
structure TimeCodec where
  /-- `UnmarshalJSON` of a value other than null. -/
  read : Json → Except GoError String
  /-- The zero time. -/
  zero : String
  /-- What is written is read as itself. -/
  rereads : ∀ value text, read value = .ok text → read (.str text) = .ok text
  /-- The zero time too. -/
  zeroReads : read (.str zero) = .ok zero

/-- A `time.Time`. -/
structure TimeValue (times : TimeCodec) where
  /-- The text that is written for it. -/
  text : String
  /-- It is read as itself. -/
  reads : times.read (.str text) = .ok text

namespace TimeValue

variable {times : TimeCodec}

/-- The zero time. -/
def zero : TimeValue times := ⟨times.zero, times.zeroReads⟩

/-- An instant that was read. -/
def ofRead (value : Json) : Except GoError (TimeValue times) :=
  match given : times.read value with
  | .ok text => .ok ⟨text, times.rereads value text given⟩
  | .error err => .error err

/-- Fill an instant; null leaves it as it is. -/
def fill (held : TimeValue times) : Json → Except GoError (TimeValue times)
  | .null => .ok held
  | value => ofRead value

/-- What is written is filled again. -/
theorem fill_write (held value : TimeValue times) : held.fill (.str value.text) = .ok value := by
  obtain ⟨text, reads⟩ := value
  show ofRead (.str text) = _
  unfold ofRead
  split
  · rename_i other given
    cases reads.symm.trans given
    rfl
  · rename_i err given
    cases reads.symm.trans given

end TimeValue

/-- `Invocation`. -/
structure Invocation where
  parameters : AnyValue
  uri : String
  eventID : String
  builderID : String

/-- `DB`. -/
structure DB where
  uri : String
  version : String

/-- `Scanner`. -/
structure Scanner where
  uri : String
  version : String
  db : DB
  result : AnyMap

/-- `Metadata`. -/
structure Metadata (times : TimeCodec) where
  scanStartedOn : TimeValue times
  scanFinishedOn : TimeValue times

/-- `CosignVulnPredicate`. -/
structure CosignVulnPredicate (times : TimeCodec) where
  invocation : Invocation
  scanner : Scanner
  metadata : Metadata times

/-- Struct tags of `Invocation`. -/
def Invocation.fields : List (StructField Invocation) :=
  [⟨"parameters", fun filled value =>
      (filled.parameters.fill value).map fun parameters => { filled with parameters }⟩,
    ⟨"uri", storeString fun filled text => { filled with uri := text }⟩,
    ⟨"event_id", storeString fun filled text => { filled with eventID := text }⟩,
    ⟨"builder.id", storeString fun filled text => { filled with builderID := text }⟩]

/-- Struct tags of `DB`. -/
def DB.fields : List (StructField DB) :=
  [⟨"uri", storeString fun filled text => { filled with uri := text }⟩,
    ⟨"version", storeString fun filled text => { filled with version := text }⟩]

/-- Struct tags of `Scanner`. -/
def Scanner.fields : List (StructField Scanner) :=
  [⟨"uri", storeString fun filled text => { filled with uri := text }⟩,
    ⟨"version", storeString fun filled text => { filled with version := text }⟩,
    ⟨"db", fun filled value =>
      (fillStruct "attestation.DB" DB.fields filled.db value).map fun db => { filled with db }⟩,
    ⟨"result", fun filled value =>
      (filled.result.fill value).map fun result => { filled with result }⟩]

/-- Struct tags of `Metadata`. -/
def Metadata.fields {times : TimeCodec} : List (StructField (Metadata times)) :=
  [⟨"scanStartedOn", fun filled value =>
      (filled.scanStartedOn.fill value).map fun scanStartedOn => { filled with scanStartedOn }⟩,
    ⟨"scanFinishedOn", fun filled value =>
      (filled.scanFinishedOn.fill value).map fun scanFinishedOn =>
        { filled with scanFinishedOn }⟩]

namespace CosignVulnPredicate

variable {times : TimeCodec}

/-- Struct tags of `CosignVulnPredicate`. -/
def fields : List (StructField (CosignVulnPredicate times)) :=
  [⟨"invocation", fun filled value =>
      (fillStruct "attestation.Invocation" Invocation.fields filled.invocation value).map
        fun invocation => { filled with invocation }⟩,
    ⟨"scanner", fun filled value =>
      (fillStruct "attestation.Scanner" Scanner.fields filled.scanner value).map
        fun scanner => { filled with scanner }⟩,
    ⟨"metadata", fun filled value =>
      (fillStruct "attestation.Metadata" Metadata.fields filled.metadata value).map
        fun metadata => { filled with metadata }⟩]

/-- The zero value. -/
def zero (times : TimeCodec) : CosignVulnPredicate times where
  invocation := ⟨.nil, "", "", ""⟩
  scanner := ⟨"", "", ⟨"", ""⟩, .nil⟩
  metadata := ⟨.zero, .zero⟩

/-- The tree that `json.Marshal` writes. -/
def write (float : FloatFormat) (vuln : CosignVulnPredicate times) : Json :=
  .obj [("invocation", .obj [("parameters", vuln.invocation.parameters.write float),
      ("uri", .str vuln.invocation.uri), ("event_id", .str vuln.invocation.eventID),
      ("builder.id", .str vuln.invocation.builderID)]),
    ("scanner", .obj [("uri", .str vuln.scanner.uri), ("version", .str vuln.scanner.version),
      ("db", .obj [("uri", .str vuln.scanner.db.uri), ("version", .str vuln.scanner.db.version)]),
      ("result", vuln.scanner.result.write float)]),
    ("metadata", .obj [("scanStartedOn", .str vuln.metadata.scanStartedOn.text),
      ("scanFinishedOn", .str vuln.metadata.scanFinishedOn.text)])]

/-- `json.Unmarshal` over a value. -/
def fill (held : CosignVulnPredicate times) (value : Json) :
    Except GoError (CosignVulnPredicate times) :=
  fillStruct "attestation.CosignVulnPredicate" fields held value

/-- What is written fits an `interface{}`. -/
theorem write_fits (float : FloatFormat) (vuln : CosignVulnPredicate times) :
    fitsInterface (vuln.write float) = true := by
  have parameters := vuln.invocation.parameters.write_fits float
  have result := vuln.scanner.result.write_fits float
  simp [write, fitsInterface, membersFit, parameters, result]

/-- The invocation that is written is filled again. -/
theorem fill_invocation (float : FloatFormat) (held value : Invocation) :
    fillStruct "attestation.Invocation" Invocation.fields held
      (.obj [("parameters", value.parameters.write float), ("uri", .str value.uri),
        ("event_id", .str value.eventID), ("builder.id", .str value.builderID)]) =
      .ok { value with parameters := value.parameters.again float } := by
  have parameters : (held.parameters.fill (value.parameters.write float)).map
      (fun parameters => { held with parameters }) =
        .ok { held with parameters := value.parameters.again float } := by
    rw [AnyValue.fill_write]
    rfl
  simp only [fillStruct]
  refine Eq.trans (fillMembers_cons rfl parameters) ?_
  rfl

/-- The scanner that is written is filled again over the zero value. -/
theorem fill_scanner (float : FloatFormat) (value : Scanner) :
    ∃ result, fillStruct "attestation.Scanner" Scanner.fields ⟨"", "", ⟨"", ""⟩, .nil⟩
      (.obj [("uri", .str value.uri), ("version", .str value.version),
        ("db", .obj [("uri", .str value.db.uri), ("version", .str value.db.version)]),
        ("result", value.result.write float)]) = .ok { value with result } ∧
      result.write float = value.result.write float := by
  obtain ⟨result, filled, same⟩ := AnyMap.fill_write float value.result
  have stored : (AnyMap.nil.fill (value.result.write float)).map
      (fun result => Scanner.mk value.uri value.version value.db result) =
        .ok { value with result } := by
    rw [filled]
    rfl
  refine ⟨result, ?_, same⟩
  simp only [fillStruct]
  refine Eq.trans (fillMembers_cons rfl rfl) ?_
  refine Eq.trans (fillMembers_cons rfl rfl) ?_
  refine Eq.trans (fillMembers_cons rfl rfl) ?_
  exact fillMembers_cons rfl stored

/-- The metadata that is written is filled again. -/
theorem fill_metadata (held value : Metadata times) :
    fillStruct "attestation.Metadata" Metadata.fields held
      (.obj [("scanStartedOn", .str value.scanStartedOn.text),
        ("scanFinishedOn", .str value.scanFinishedOn.text)]) = .ok value := by
  have started : (held.scanStartedOn.fill (.str value.scanStartedOn.text)).map
      (fun scanStartedOn => { held with scanStartedOn }) =
        .ok { held with scanStartedOn := value.scanStartedOn } := by
    rw [TimeValue.fill_write]
    rfl
  have finished : (held.scanFinishedOn.fill (.str value.scanFinishedOn.text)).map
      (fun scanFinishedOn => Metadata.mk value.scanStartedOn scanFinishedOn) = .ok value := by
    rw [TimeValue.fill_write]
    rfl
  simp only [fillStruct]
  refine Eq.trans (fillMembers_cons rfl started) ?_
  exact fillMembers_cons rfl finished

/-- What is written is filled again, and is then written as before. -/
theorem fill_write (float : FloatFormat) (vuln : CosignVulnPredicate times) :
    ∃ again, (zero times).fill (vuln.write float) = .ok again ∧
      again.write float = vuln.write float := by
  have first := fill_invocation float (zero times).invocation vuln.invocation
  obtain ⟨result, second, same⟩ := fill_scanner float vuln.scanner
  have third := fill_metadata (zero times).metadata vuln.metadata
  refine ⟨⟨{ vuln.invocation with parameters := vuln.invocation.parameters.again float },
    { vuln.scanner with result }, vuln.metadata⟩, ?_, ?_⟩
  · simp only [fill, write, fillStruct]
    refine Eq.trans (fillMembers_cons rfl (congrArg (Except.map _) first)) ?_
    refine Eq.trans (fillMembers_cons rfl (congrArg (Except.map _) second)) ?_
    exact fillMembers_cons rfl (congrArg (Except.map _) third)
  · simp only [write, AnyValue.write_again, same]

end CosignVulnPredicate

/-- `CosignVulnPredicate` as a type of predicates. -/
def vulnPredicate (float : FloatFormat) (times : TimeCodec) :
    PredicateType (CosignVulnPredicate times) where
  tags := ["invocation", "scanner", "metadata"]
  zero := .zero times
  fill := CosignVulnPredicate.fill
  write := CosignVulnPredicate.write float
  rereads := CosignVulnPredicate.fill_write float
  fits := CosignVulnPredicate.write_fits float

/-! ## Generating a statement -/

/-- What statements rest on outside the repository. -/
structure PredicateKit where
  /-- `slsa.PredicateSLSAProvenance`. -/
  slsaURI : String
  /-- `in_toto.PredicateSPDX`. -/
  spdxURI : String
  /-- `in_toto.PredicateLinkV1`. -/
  linkURI : String
  /-- `in_toto.StatementInTotoV01`. -/
  statementType : String
  /-- How numbers are written. -/
  float : FloatFormat
  /-- JSON of `time.Time`. -/
  times : TimeCodec
  /-- The type `slsa.ProvenancePredicate`. -/
  Provenance : Type
  /-- Its JSON. -/
  provenance : PredicateType Provenance
  /-- The type `in_toto.Link`. -/
  Link : Type
  /-- Its JSON. -/
  link : PredicateType Link
  /-- `url.ParseRequestURI`, by its error. -/
  parseRequestURI : String → Option GoError

namespace PredicateKit

/-- The statement types as the policies read them. -/
def codec (kit : PredicateKit) : StatementCodec where
  slsaURI := kit.slsaURI
  spdxURI := kit.spdxURI
  linkURI := kit.linkURI
  marshalStatement statement :=
    .ok (Json.marshal (.obj [("_type", .str statement.type),
      ("predicateType", .str statement.predicateType),
      ("subject", subjectsJson statement.subject),
      ("predicate", interfaceJson kit.float.format statement.predicate)]))
  nonempty statement text marshalled := by
    cases marshalled
    exact TypedStatement.marshal_obj_ne_nil _
  link := TypedStatement.codec kit.link "in_toto.LinkStatement"
  provenance := TypedStatement.codec kit.provenance "in_toto.ProvenanceStatement"
  spdx := TypedStatement.codec (anyPredicate kit.float) "in_toto.SPDXStatement"
  vuln := TypedStatement.codec (vulnPredicate kit.float kit.times)
    "attestation.CosignVulnStatement"

end PredicateKit

/-- A statement that was generated, its predicate being given by the tree that `json.Marshal`
writes for it. -/
abbrev GeneratedStatement : Type := TypedStatement Json

/-- The tree that `json.Marshal` writes for a statement that was generated. -/
def GeneratedStatement.json (statement : GeneratedStatement) : Json :=
  .obj [("_type", .str statement.type), ("predicateType", .str statement.predicateType),
    ("subject", subjectsJson statement.subject), ("predicate", statement.predicate)]

/-- `generateStatementHeader`, with a predicate. -/
def generateStatementHeader (kit : PredicateKit) (digest repo predicateType : String)
    (predicate : Json) : GeneratedStatement :=
  ⟨kit.statementType, predicateType, [⟨repo, [("sha256", digest)]⟩], predicate⟩

/-- The tree of a `CosignPredicate` whose data is a text. -/
def cosignPredicate (data timestamp : String) : Json :=
  .obj [("Data", .str data), ("Timestamp", .str timestamp)]

/-- The fields that `checkRequiredJSONFields` asks for: those whose tags have no option. -/
def requiredFields (tags : List String) : List String := tags.filter fun tag => ',' ∉ tag.toList

/-- `checkRequiredJSONFields`. -/
def checkRequiredJSONFields (rawPayload : Bytes) (tags : List String) : Except GoError Unit := do
  let tmp ← unmarshal fillMap rawPayload
  match (requiredFields tags).find? fun field => (mapValue tmp field).isNone with
  | some field => .error ⟨"required field " ++ field ++ " missing"⟩
  | none => .ok ()

/-- `fmt.Errorf` of a text and a wrapped error. -/
def prefixed {α : Type} (text : String) (call : Except GoError α) : Except GoError α :=
  call.mapError fun err => ⟨text ++ ": " ++ err.message⟩

/-- `generateSLSAProvenanceStatement`. -/
def generateSLSAProvenanceStatement (kit : PredicateKit) (rawPayload : Bytes)
    (digest repo : String) : Except GoError GeneratedStatement := do
  prefixed "provenance predicate" (checkRequiredJSONFields rawPayload kit.provenance.tags)
  let predicate ← (unmarshal (kit.provenance.fill kit.provenance.zero) rawPayload).mapError
    fun err => err.wrap "unmarshal Provenance predicate"
  .ok (generateStatementHeader kit digest repo kit.slsaURI (kit.provenance.write predicate))

/-- `generateLinkStatement`. -/
def generateLinkStatement (kit : PredicateKit) (rawPayload : Bytes) (digest repo : String) :
    Except GoError GeneratedStatement := do
  prefixed "link statement" (checkRequiredJSONFields rawPayload kit.link.tags)
  let link ← (unmarshal (kit.link.fill kit.link.zero) rawPayload).mapError
    fun err => err.wrap "unmarshal Link statement"
  .ok (generateStatementHeader kit digest repo kit.linkURI (kit.link.write link))

/-- `generateSPDXStatement`. -/
def generateSPDXStatement (kit : PredicateKit) (rawPayload : Bytes) (digest repo : String) :
    Except GoError GeneratedStatement :=
  .ok (generateStatementHeader kit digest repo kit.spdxURI
    (cosignPredicate (goString rawPayload) ""))

/-- `generateVulnStatement`. -/
def generateVulnStatement (kit : PredicateKit) (predicate : Bytes) (digest repo : String) :
    Except GoError GeneratedStatement := do
  let vuln ← unmarshal (CosignVulnPredicate.zero kit.times).fill predicate
  .ok (generateStatementHeader kit digest repo cosignVulnProvenanceV01 (vuln.write kit.float))

/-- `generateCustomPredicate`. -/
def generateCustomPredicate (kit : PredicateKit) (rawPayload : Bytes)
    (customType timestamp : String) : Except GoError Json :=
  if customType = cosignCustomProvenanceV01 then
    .ok (cosignPredicate (goString rawPayload) timestamp)
  else do
    let result ← (unmarshal AnyMap.nil.fill rawPayload).mapError
      fun err => err.wrap ("invalid JSON payload for predicate type " ++ customType)
    .ok (result.write kit.float)

/-- `generateCustomStatement`. -/
def generateCustomStatement (kit : PredicateKit) (rawPayload : Bytes)
    (customType digest repo timestamp : String) : Except GoError GeneratedStatement := do
  let payload ← generateCustomPredicate kit rawPayload customType timestamp
  .ok (generateStatementHeader kit digest repo customType payload)

/-- `GenerateOpts`. -/
structure GenerateOpts where
  /-- `Predicate`, by the result of reading it to its end. -/
  predicate : Except GoError Bytes
  type : String
  digest : String
  repo : String
  /-- The result of `Time`, formatted. -/
  timestamp : String

/-- `customType`. -/
def customType (opts : GenerateOpts) : String :=
  if opts.type ≠ "custom" then opts.type else cosignCustomProvenanceV01

/-- `GenerateStatement`. -/
def generateStatement (kit : PredicateKit) (opts : GenerateOpts) :
    Except GoError GeneratedStatement := do
  let predicate ← opts.predicate
  if opts.type = "slsaprovenance" then
    generateSLSAProvenanceStatement kit predicate opts.digest opts.repo
  else if opts.type = "spdx" then generateSPDXStatement kit predicate opts.digest opts.repo
  else if opts.type = "link" then generateLinkStatement kit predicate opts.digest opts.repo
  else if opts.type = "vuln" then generateVulnStatement kit predicate opts.digest opts.repo
  else
    generateCustomStatement kit predicate (customType opts) opts.digest opts.repo opts.timestamp

end Cosign.Sign
