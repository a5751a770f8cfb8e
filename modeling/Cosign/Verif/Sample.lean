import Cosign.Encoding.Base64
import Cosign.Encoding.JsonText
import Cosign.Spec.LogEntry
import Cosign.Verify.Attestation

/-!
# A platform for evaluation

A platform on which the verification code can be run, with one key, one payload and their real
digests. Its models decode the entries of the log from JSON, and what is assumed of platforms holds
of it (`samplePlatform_excludes`).
-/
namespace Cosign.Verif

open Cosign.Go Cosign.Encoding Cosign.Oci Cosign.Verify Cosign.Spec

/-- A member of a JSON object. -/
def sampleMember (key : String) : Json → Option Json
  | .obj members => mapValue members key
  | _ => none

/-- A string member of a JSON object. -/
def sampleText (key : String) (value : Json) : Option String :=
  match sampleMember key value with
  | some (.str text) => some text
  | _ => none

/-- The spec of an entry of one kind. -/
def sampleSpec (kind : String) (bytes : Bytes) : Except GoError Json :=
  match Json.parse bytes with
  | none => .error syntaxError
  | some tree =>
    if sampleText "kind" tree = some kind then .ok ((sampleMember "spec" tree).getD .null)
    else .error ⟨"invalid kind value"⟩

/-- A hash pointer of a schema. -/
def sampleHash (value : Json) : Option EntryHash :=
  (sampleMember "hash" value).map fun hash =>
    ⟨sampleText "algorithm" hash, sampleText "value" hash⟩

/-- A base64 member of a schema. -/
def sampleBytes (key : String) (value : Json) : Bytes :=
  ((sampleText key value).bind Base64.stdDecode).getD []

/-- The rekord and hashedrekord schemas. -/
def sampleRekord (bytes : Bytes) : Except GoError RekordObj :=
  match Json.parse bytes with
  | none => .error syntaxError
  | some spec => .ok
      { data := (sampleMember "data" spec).map sampleHash
        signature := (sampleMember "signature" spec).map fun signature =>
          ⟨sampleBytes "content" signature,
            (sampleMember "publicKey" signature).map (sampleBytes "content")⟩ }

/-- The in-toto schema. -/
def sampleIntoto (bytes : Bytes) : Except GoError IntotoObj :=
  match Json.parse bytes with
  | none => .error syntaxError
  | some spec => .ok
      { content := (sampleMember "content" spec).map sampleHash
        publicKey := (sampleText "publicKey" spec).bind Base64.stdDecode }

/-- The payload of the sample layers. -/
def samplePayload : Bytes := [1, 2, 3, 4]

/-- Its SHA-256. -/
def sampleDigest : Bytes :=
  [159, 100, 167, 71, 225, 185, 127, 19, 31, 171, 182, 180, 71, 41, 108, 155,
    111, 2, 1, 231, 159, 179, 197, 53, 110, 108, 119, 232, 155, 106, 128, 106]

/-- The key of the log, of the signer and of the authorities of the sample. -/
def sampleKey : PublicKey := ⟨.ecdsa, [4]⟩

/-- The SHA-256 of its DER content, which identifies the log. -/
def sampleLogDigest : Bytes :=
  [229, 45, 156, 80, 140, 80, 35, 71, 52, 77, 140, 7, 173, 145, 203, 214,
    6, 138, 252, 117, 255, 98, 146, 240, 98, 160, 156, 163, 129, 200, 158, 113]

/-- The leaf hash of the empty entry. -/
def sampleEmptyLeaf : Bytes :=
  [110, 52, 11, 156, 255, 179, 122, 152, 156, 165, 68, 230, 187, 120, 10, 44,
    120, 144, 29, 63, 179, 55, 56, 118, 133, 17, 163, 6, 23, 175, 160, 29]

/-- A verifier that accepts the signature of the sample. -/
def sampleVerifier : Verifier where
  verifySignature signature _ :=
    if signature = [1] then none else some ⟨"invalid signature when validating ASN.1 encoded"⟩
  publicKey _ := .ok sampleKey

/-- `Verify` of an envelope: some signature verifies over the decoded payload. -/
def sampleVerifyEnvelope (verifier : Verifier) (env : Envelope) : Option GoError :=
  match env.decodePayload with
  | none => some corruptInput
  | some body =>
    if env.signatures.any fun signature =>
        match Base64.stdDecode signature.sig with
        | none => false
        | some sig => (verifier.verifySignature sig (Envelope.pae env.payloadType body)).isNone
    then none
    else some ⟨"accepted signatures do not match threshold"⟩

/-- A platform on which the sample layers can be evaluated. -/
def samplePlatform : Platform where
  pem := ⟨fun _ => .error ⟨"error during PEM decoding"⟩, nofun⟩
  marshalCertificateToPEM
    | none => .error ⟨"nil certificate provided"⟩
    | some cert => .ok cert.raw
  marshalCertificatesToPEM certs := .ok (certs.flatMap (·.raw))
  marshalPublicKeyToPEM key := .ok key.material
  unmarshalPEMToPublicKey bytes := .ok ⟨.ecdsa, bytes⟩
  marshalPKIXPublicKey key := .ok key.material
  loadVerifier _ := .ok sampleVerifier
  verifyCertificate cert _ := .ok ⟨[cert], []⟩
  compileRegexp pattern := .ok (· == pattern)
  parseSCTsFromCertificate _ := .ok []
  certificateFromPEM bytes := .ok bytes
  certificatesFromPEM bytes := .ok [bytes]
  parseAddChainResponse _ := .error syntaxError
  ctLogID key := .ok key.material
  verifySCTSignature _ _ _ _ := none
  pemDecoder := ⟨fun _ => none, nofun⟩
  parsePKIXPublicKey bytes := .ok ⟨.ecdsa, bytes⟩
  parsePKCS1PublicKey _ := .error ⟨"x509: failed to parse public key"⟩
  sha256 bytes :=
    if bytes = samplePayload then sampleDigest
    else if bytes = sampleKey.material then sampleLogDigest else []
  verifyASN1 _ _ signature := signature == [1]
  canonicalize := .ok
  unmarshalRekord := sampleSpec "rekord"
  unmarshalHashedrekord := sampleSpec "hashedrekord"
  unmarshalIntoto := sampleSpec "intoto"
  unmarshalRekordObj := sampleRekord
  unmarshalHashedrekordObj := sampleRekord
  unmarshalIntotoObj := sampleIntoto
  hashLeaf bytes := if bytes = [] then sampleEmptyLeaf else []
  verifyInclusionProof index size hashes root leaf :=
    if index = 0 ∧ size = 1 ∧ hashes = [] ∧ root = leaf then none
    else some ⟨"calculated root does not match expected root"⟩
  verifyEnvelope := sampleVerifyEnvelope
  rekorTargets := .ok [⟨sampleKey.material, .active⟩]
  ctfeTargets := .ok [⟨sampleKey.material, .active⟩]
  getenv _ := ""
  readFile _ := .error ⟨"no such file or directory"⟩
  formatRFC3339 _ := ""

theorem sampleSpec_kind {kind other : String} {bytes : Bytes} {spec spec' : Json}
    (first : sampleSpec kind bytes = .ok spec) (second : sampleSpec other bytes = .ok spec') :
    kind = other := by
  unfold sampleSpec at first second
  cases parsed : Json.parse bytes with
  | none => simp [parsed] at first
  | some tree =>
    simp only [parsed] at first second
    by_cases same : sampleText "kind" tree = some kind
    · by_cases same' : sampleText "kind" tree = some other
      · exact Option.some.inj (same.symm.trans same')
      · simp [same'] at second
    · simp [same] at first

theorem samplePlatform_excludes : KindsExclude samplePlatform where
  rekord_hashedrekord _ _ _ first second :=
    absurd (sampleSpec_kind first second) (by decide)
  rekord_intoto _ _ _ first second :=
    absurd (sampleSpec_kind first second) (by decide)
  hashedrekord_intoto _ _ _ first second :=
    absurd (sampleSpec_kind first second) (by decide)

/-- A bundle of the sample log around an entry body. -/
def sampleBundle (body : Json) : RekorBundle :=
  ⟨[1], ⟨body, 1650000000, 0,
    "e52d9c508c502347344d8c07ad91cbd6068afc75ff6292f062a09ca381c89e71"⟩⟩

/-- An entry of the log as the body of a bundle. -/
def sampleBody (kind : String) (spec : Json) : Json :=
  .str (Base64.stdEncode (Json.marshal (.obj [("kind", .str kind), ("spec", spec)])))

/-- The hash of an entry. -/
def sampleHashField (value : String) : Json :=
  .obj [("hash", .obj [("algorithm", .str "sha256"), ("value", .str value)])]

/-- An in-toto entry that records a hash. -/
def sampleIntotoBody (value : String) : Json :=
  sampleBody "intoto" (.obj [("content", sampleHashField value)])

/-- A hashedrekord entry that records a hash and the signature of the sample. -/
def sampleHashedrekordBody (value : String) : Json :=
  sampleBody "hashedrekord" (.obj [("data", sampleHashField value),
    ("signature", .obj [("content", .str "AQ=="),
      ("publicKey", .obj [("content", .str "BA==")])])])

/-- The spec of a hashedrekord entry: a hash, and a signature and a key in base64. -/
def hashedrekordSpec (value signature key : String) : Json :=
  .obj [("data", sampleHashField value),
    ("signature", .obj [("content", .str signature),
      ("publicKey", .obj [("content", .str key)])])]

theorem writable_hashedrekordSpec (value signature key : String) (limit : Nat) :
    Json.Writable (limit + 3) (hashedrekordSpec value signature key) :=
  ⟨by omega, ⟨by omega, ⟨by omega, trivial, trivial, trivial⟩, trivial⟩,
    ⟨by omega, trivial, ⟨by omega, trivial, trivial⟩, trivial⟩, trivial⟩

/-- A hashedrekord entry reads as what its spec says, on every platform with the models of the
sample. -/
theorem reads_hashedrekordSpec {p : Platform} {value signature key : String}
    {sigBytes keyBytes : Bytes}
    (models : p.unmarshalHashedrekord = sampleSpec "hashedrekord" ∧
      p.unmarshalHashedrekordObj = sampleRekord)
    (signed : Base64.stdDecode signature = some sigBytes)
    (keyed : Base64.stdDecode key = some keyBytes) :
    Reads p (Base64.stdEncode (Json.marshal (.obj [("kind", .str "hashedrekord"),
        ("spec", hashedrekordSpec value signature key)])))
      (.hashedrekord
        ⟨some (some ⟨some "sha256", some value⟩), some ⟨sigBytes, some keyBytes⟩⟩) := by
  have writable : Json.Writable Json.maxNestingDepth (.obj [("kind", .str "hashedrekord"),
      ("spec", hashedrekordSpec value signature key)]) :=
    ⟨by decide, trivial, writable_hashedrekordSpec value signature key 9996, trivial⟩
  have kind : sampleSpec "hashedrekord" (Json.marshal (.obj [("kind", .str "hashedrekord"),
      ("spec", hashedrekordSpec value signature key)])) =
      .ok (hashedrekordSpec value signature key) := by
    unfold sampleSpec
    rw [Json.parse_marshal writable]
    rfl
  have schema : sampleRekord (Json.marshal (hashedrekordSpec value signature key)) =
      .ok ⟨some (some ⟨some "sha256", some value⟩), some ⟨sigBytes, some keyBytes⟩⟩ := by
    unfold sampleRekord
    rw [Json.parse_marshal (writable_hashedrekordSpec value signature key 9997)]
    show Except.ok (RekordObj.mk _ (some ⟨((some signature).bind Base64.stdDecode).getD [],
      some (((some key).bind Base64.stdDecode).getD [])⟩)) = _
    rw [Option.bind_some, Option.bind_some, signed, keyed]
    rfl
  rw [← models.1] at kind
  rw [← models.2] at schema
  exact .hashedrekord (Base64.stdDecode_stdEncode _) kind schema

/-- The entry with the signature and the key of the sample reads as such. -/
theorem reads_sampleHashedrekordBody {p : Platform} {value body : String}
    (models : p.unmarshalHashedrekord = sampleSpec "hashedrekord" ∧
      p.unmarshalHashedrekordObj = sampleRekord)
    (text : sampleHashedrekordBody value = .str body) :
    Reads p body
      (.hashedrekord ⟨some (some ⟨some "sha256", some value⟩), some ⟨[1], some [4]⟩⟩) := by
  rw [← Json.str.inj text]
  exact reads_hashedrekordSpec models rfl rfl

/-- A certificate of the sample signer, valid for ten minutes around the time of the bundle. -/
def sampleCert : Certificate where
  raw := [48]
  publicKey := sampleKey
  notBefore := ⟨63785596500⟩
  notAfter := ⟨63785597100⟩
  dnsNames := []
  emailAddresses := ["signer@example.com"]
  ipAddresses := []
  uris := []
  extensions := []
  dated := by decide

/-- A layer with the payload of the sample. -/
def sampleLayer (base64Signature : String) (cert : Option Certificate) (body : Option Json) :
    Signature where
  annotations := .ok ∅
  payload := .ok samplePayload
  base64Signature := .ok base64Signature
  cert := .ok cert
  chain := .ok []
  bundle := .ok (body.map sampleBundle)

/-- The digest of the sample image. -/
def sampleImage : Hash := ⟨"sha256", "00"⟩

/-- Options with the key of the sample signer. -/
def sampleKeyOpts : CheckOpts where
  sigVerifier := some sampleVerifier

/-- Options with root certificates and no key. -/
def sampleRootOpts : CheckOpts where
  rootCerts := some CertPool.empty

end Cosign.Verif
