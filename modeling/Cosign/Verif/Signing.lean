import Cosign.Verif.Bundle
import Cosign.Verif.Documents
import Cosign.Verif.Isolation
import Cosign.Verif.SignatureList

/-!
# What is signed with a bundle verifies

A run of the sign command that uploads to the log: the stacked signers build a signature, it is
attached to an entity, uploaded and read back. `Conveys` is what the signature says after each
signer; because it also says so after an upload (`Survives`), what is read back passes the checks
that it was made for (`signed_bundle_verifies`).
-/
namespace Cosign.Verif

open Cosign.Go Cosign.Encoding Cosign.Oci Cosign.Verify Cosign.Spec Cosign.Sign

variable {p : Platform} {s : MessageSigner} {verifier : Verifier} {client : LogClient}
  {certPem chainPem : Option String} {leaf : Option Certificate} {payload signature key : Bytes}
  {pub : PublicKey} {entry : LogEntryAnon} {bundle : RekorBundle} {sig : OciSignature}

/-! ## What is assumed of the parties -/

/-- A signer and the verifier of its key: what the one signs the other accepts, and a signature
has bytes. -/
structure KeyPair (s : MessageSigner) (verifier : Verifier) : Prop where
  /-- Signatures verify over what was signed. -/
  verifies : ∀ message opts signature, s.signMessage message opts = .ok signature →
    verifier.verifySignature signature message = none
  /-- A signature is not empty. -/
  nonempty : ∀ message opts signature, s.signMessage message opts = .ok signature →
    signature ≠ []

/-- The certificate and the chain of the signer, if any, can be loaded. -/
inductive Certified (pem : PemLoader) (chainPem : Option String) :
    Option String → Option Certificate → Prop
  /-- A key without a certificate. -/
  | uncertified : Certified pem chainPem none none
  /-- A certificate, and a chain that is nil or can be loaded. -/
  | certified {certPem : String} {cert : Certificate} {rest : List Certificate} :
      pem.load certPem = .ok (cert :: rest) →
      (∀ chain, chainPem = some chain → ∃ certs, pem.load chain = .ok certs) →
      Certified pem chainPem (some certPem) (some cert)

/-- The log answers a proposed entry with an entry: it creates it, or it has it already and
gives it with an inclusion proof. -/
inductive Uploads (p : Platform) (client : LogClient) (proposed : ProposedEntry)
    (entry : LogEntryAnon) : Prop
  | created {answer : GoMap LogEntryAnon} {uuid : String}
      {rest : List (Sigma fun _ : String => LogEntryAnon)} :
      client.createLogEntry proposed = .ok answer → answer.entries = ⟨uuid, entry⟩ :: rest →
      Uploads p client proposed entry
  /-- The entry was there before. -/
  | existing {location : String} :
      client.createLogEntry proposed = .error (.conflict location) →
      getTlogEntry p client 0 (lastSegment location) = .ok (.ok entry) →
      verifyTLogEntry p client.toRekorClient entry = .ok none → Uploads p client proposed entry

/-- An entry of a known log that records what was proposed, with the bundle made of it. -/
structure Logged (p : Platform) (proposed : ProposedEntry) (entry : LogEntryAnon)
    (bundle : RekorBundle) : Prop where
  body : entry.body = bundle.payload.body
  /-- The integrated time is set. -/
  integratedTime : entry.integratedTime = some bundle.payload.integratedTime
  /-- The index is set. -/
  logIndex : entry.logIndex = some bundle.payload.logIndex
  /-- The log is named. -/
  logID : entry.logID = some bundle.payload.logID
  timestamp : ∃ proof, entry.verification = some ⟨proof, bundle.signedEntryTimestamp⟩
  /-- The body is the canonical form of what was proposed. -/
  records : ∃ body, bundle.payload.body = .str body ∧ RecordsProposed p body proposed
  /-- The log is known, and the timestamp verifies under its key. -/
  signed : ∃ keys pubKey, getRekorPubs p = .ok keys ∧
    keys.lookup bundle.payload.logID = some pubKey ∧
    verifySET p bundle.payload bundle.signedEntryTimestamp pubKey.pubKey = none

theorem doUpload_of_uploads {proposed : ProposedEntry}
    (uploads : Uploads p client proposed entry) :
    doUpload p client proposed = .ok (.ok entry) := by
  unfold doUpload
  cases uploads with
  | created answered listed => simp only [answered, listed]
  | existing conflict fetched checked => simp only [conflict, fetched, checked, bind, Except.bind]

theorem Logged.entryToBundle {proposed : ProposedEntry}
    (logged : Logged p proposed entry bundle) : entryToBundle entry = .ok (some bundle) := by
  obtain ⟨proof, verification⟩ := logged.timestamp
  simp only [Verify.entryToBundle, verification, logged.integratedTime, logged.logIndex,
    logged.logID, logged.body, deref, bind, Except.bind]

theorem Logged.roundTrips {proposed : ProposedEntry}
    (logged : Logged p proposed entry bundle) : RoundTrips bundle := by
  obtain ⟨body, text, -⟩ := logged.records
  exact roundTrips_of_text text

theorem uploadToTlog_logged
    (uploads : Uploads p client (rekorEntry p payload signature key) entry)
    (logged : Logged p (rekorEntry p payload signature key) entry bundle) :
    uploadToTlog key (tLogUpload p client signature payload) = .ok (.ok (some bundle)) := by
  unfold uploadToTlog tLogUpload
  simp only [doUpload_of_uploads uploads, logged.logIndex, logged.entryToBundle, deref, bind,
    Except.bind]

/-! ## The signers -/

/-- What a signature says in memory, and that it says the same after an upload. -/
structure Conveys (pem : PemLoader) (sig : OciSignature) (payload signature : Bytes)
    (cert : Option Certificate) (bundle : Option RekorBundle) : Prop where
  payload : sig.payload = .ok payload
  base64 : sig.base64Signature = .ok (Base64.stdEncode signature)
  /-- The certificate. -/
  cert : sig.cert = .ok cert
  bundle : sig.bundle = .ok bundle
  /-- It can be uploaded. -/
  readable : Readable sig
  /-- It means the same after an upload. -/
  survives : Survives pem sig

/-- A wrapper with annotations of its own can be uploaded if the wrapped signature can. -/
theorem readable_wrapper {sw : SigWrapper} {ann : GoMap String} (readable : Readable sw.wrapped)
    (annotated : sw.annotations = some ann) : Readable sw.signature := by
  obtain ⟨stored, stores⟩ := readable
  have annotations : sw.signature.annotations = .ok ann := by
    simp only [SigWrapper.signature, annotated, SigWrapper.orWrapped]
  by_cases blank : sw.mediaType = ""
  · refine ⟨⟨⟨stored.descriptor.mediaType, stored.descriptor.digest, ann⟩, stored.content⟩,
      stores.payload, annotations, stores.digest, ?_⟩
    exact (if_pos blank).trans stores.mediaType
  · exact ⟨⟨⟨sw.mediaType, stored.descriptor.digest, ann⟩, stored.content⟩,
      stores.payload, annotations, stores.digest, if_neg blank⟩

theorem conveys_payload (loadsEmpty : LoadsEmpty p.pem) (payload signature : Bytes) :
    ∃ sig, newSignature p.pem p.sha256 payload (Base64.stdEncode signature) [] = .ok sig ∧
      Conveys p.pem sig payload signature none none ∧ sig.chain = .ok [] := by
  have built : newSignature p.pem p.sha256 payload (Base64.stdEncode signature) [] =
      .ok (StaticLayer.signature p.pem p.sha256
        ⟨payload, Base64.stdEncode signature, StaticOptions.given []⟩) := rfl
  have uncertified : StaticLayer.cert p.pem
      ⟨payload, Base64.stdEncode signature, StaticOptions.given []⟩ = .ok none :=
    bind_eq_value.mpr ⟨[], loadsEmpty, rfl⟩
  exact ⟨_, built, ⟨rfl, rfl, uncertified, rfl, readable_static _,
    survives_newSignature loadsEmpty plain_nothing built⟩, loadsEmpty⟩

/-- The changes of the Fulcio signer. -/
def certChange (certPem : String) (chainPem : Option String) : List SignatureOption :=
  [.withCertChain (some certPem) chainPem]

/-- A certificate that loads is set, without a chain or with one that loads. -/
theorem mutateSignature_cert {pem : PemLoader} {certPem : String} {cert : Certificate}
    {ann : GoMap String} (annotations : sig.annotations = .ok ann)
    (certified : Certified pem chainPem (some certPem) (some cert)) :
    ∃ newAnn chain, mutateSignature pem sig (certChange certPem chainPem) =
      .ok (.ok (certWrapper sig (makeSignatureOption (certChange certPem chainPem)) newAnn cert
        chain).signature) := by
  cases certified with
  | certified loaded chains =>
    unfold mutateSignature
    rw [annotations]
    cases chainPem with
    | none =>
      refine ⟨certAnnotations (mutatedAnnotations (makeSignatureOption (certChange certPem none))
        ann) certPem, none, ?_⟩
      show setCertChain pem _ _ certPem none = _
      unfold setCertChain
      rw [loaded]
      rfl
    | some chain =>
      obtain ⟨certs, chained⟩ := chains chain rfl
      refine ⟨(certAnnotations (mutatedAnnotations (makeSignatureOption
        (certChange certPem (some chain))) ann) certPem).insert chainkey chain, some certs, ?_⟩
      show setCertChain pem _ _ certPem (some chain) = _
      unfold setCertChain
      rw [loaded]
      simp only [chained]
      rfl

/-- What the Fulcio signer returns conveys the same, with the certificate. -/
theorem conveys_certified {certPem : String} {cert : Certificate} (loadsEmpty : LoadsEmpty p.pem)
    (conveys : Conveys p.pem sig payload signature none none) (chainless : sig.chain = .ok [])
    (certified : Certified p.pem chainPem (some certPem) (some cert)) :
    ∃ next, mutateSignature p.pem sig (certChange certPem chainPem) = .ok (.ok next) ∧
      Conveys p.pem next payload signature (some cert) none := by
  obtain ⟨ann, annotations, -⟩ := conveys.survives
  obtain ⟨newAnn, chain, returned⟩ := mutateSignature_cert annotations certified
  have survives := survives_mutates_iff loadsEmpty conveys.survives
    (mutates_certChain certPem chainPem returned)
  exact ⟨_, returned, conveys.payload, conveys.base64, rfl, conveys.bundle,
    readable_wrapper conveys.readable rfl, survives.mpr fun _ _ => chainless⟩

/-- What the Rekor signer returns conveys the same, with the bundle. -/
theorem conveys_bundled (loadsEmpty : LoadsEmpty p.pem) (roundTrips : RoundTrips bundle)
    (conveys : Conveys p.pem sig payload signature leaf none) :
    ∃ next, mutateSignature p.pem sig [.withBundle (some bundle)] = .ok (.ok next) ∧
      Conveys p.pem next payload signature leaf (some bundle) := by
  obtain ⟨ann, annotations, -⟩ := conveys.survives
  have returned : mutateSignature p.pem sig [.withBundle (some bundle)] =
      .ok (.ok (bareWrapper sig (makeSignatureOption [.withBundle (some bundle)])
        (mutatedAnnotations (makeSignatureOption [.withBundle (some bundle)]) ann)).signature) := by
    unfold mutateSignature
    rw [annotations]
    rfl
  have mutates : Mutates p.pem sig [.withBundle (some bundle)] _ :=
    ⟨returned, fun given same => Option.some.inj same ▸ roundTrips⟩
  have survives := survives_mutates_iff loadsEmpty conveys.survives mutates
  exact ⟨_, returned, conveys.payload, conveys.base64, conveys.cert, rfl,
    readable_wrapper conveys.readable rfl, survives.mpr fun given => absurd rfl given⟩

theorem rekorParts_conveyed {bundled : Option RekorBundle}
    (conveys : Conveys p.pem sig payload signature leaf bundled)
    (marshalled : rekorKey p leaf pub = .ok key) :
    rekorParts p sig.toSignature pub = .ok (payload, signature, key) := by
  unfold rekorParts
  simp only [conveys.payload, conveys.base64, conveys.cert, Base64.stdDecode_stdEncode, marshalled,
    bind, Except.bind]

theorem rekor_sign {inner : Signer} (loadsEmpty : LoadsEmpty p.pem)
    (inside : inner.sign (.ok payload) = .ok (.ok (sig, pub)))
    (conveys : Conveys p.pem sig payload signature leaf none)
    (marshalled : rekorKey p leaf pub = .ok key)
    (uploads : Uploads p client (rekorEntry p payload signature key) entry)
    (logged : Logged p (rekorEntry p payload signature key) entry bundle) :
    ∃ next, (newRekorSigner p inner client).sign (.ok payload) = .ok (.ok (next, pub)) ∧
      Conveys p.pem next payload signature leaf (some bundle) := by
  obtain ⟨next, mutated, conveyed⟩ := conveys_bundled loadsEmpty logged.roundTrips conveys
  have uploaded := uploadToTlog_logged uploads logged
  refine ⟨next, ?_, conveyed⟩
  unfold newRekorSigner
  simp only [inside, rekorParts_conveyed conveys marshalled, uploaded, mutated, bind, Except.bind]

theorem fulcio_sign {inner : Signer} {certPem : String} {cert : Certificate}
    (loadsEmpty : LoadsEmpty p.pem) (inside : inner.sign (.ok payload) = .ok (.ok (sig, pub)))
    (conveys : Conveys p.pem sig payload signature none none) (chainless : sig.chain = .ok [])
    (certified : Certified p.pem chainPem (some certPem) (some cert)) :
    ∃ next, (newFulcioSigner p inner (some certPem) chainPem).sign (.ok payload) =
        .ok (.ok (next, pub)) ∧ Conveys p.pem next payload signature (some cert) none := by
  obtain ⟨next, mutated, conveyed⟩ := conveys_certified loadsEmpty conveys chainless certified
  refine ⟨next, ?_, conveyed⟩
  unfold certChange at mutated
  unfold newFulcioSigner
  simp only [inside, mutated, bind, Except.bind]

/-- The stacked signers sign, and what they return conveys everything they were given. -/
theorem stacked_sign (loadsEmpty : LoadsEmpty p.pem)
    (signed : s.signMessage payload [⟨"WithContext"⟩] = .ok signature)
    (owned : s.publicKey [⟨"WithContext"⟩] = .ok pub)
    (certified : Certified p.pem chainPem certPem leaf)
    (marshalled : rekorKey p leaf pub = .ok key)
    (uploads : Uploads p client (rekorEntry p payload signature key) entry)
    (logged : Logged p (rekorEntry p payload signature key) entry bundle) :
    ∃ signer sig, stackSigners p s certPem chainPem client = .ok signer ∧
      signer.sign (.ok payload) = .ok (.ok (sig, pub)) ∧
      Conveys p.pem sig payload signature leaf (some bundle) := by
  let inner : Signer := ⟨(PayloadSigner.mk s [] []).sign p⟩
  obtain ⟨plain, built, conveys, chainless⟩ := conveys_payload loadsEmpty payload signature
  have inside : inner.sign (.ok payload) = .ok (.ok (plain, pub)) := by
    simp only [inner, PayloadSigner.sign, PayloadSigner.signPayload, PayloadSigner.publicKey,
      signed, owned, built, bind, Except.bind]
  cases certified with
  | uncertified =>
    obtain ⟨sig, ran, conveyed⟩ := rekor_sign loadsEmpty inside conveys marshalled uploads logged
    exact ⟨_, sig, rfl, ran, conveyed⟩
  | certified loaded chains =>
    obtain ⟨wrapped, wrapping, certifies⟩ :=
      fulcio_sign loadsEmpty inside conveys chainless (.certified loaded chains)
    obtain ⟨sig, ran, conveyed⟩ :=
      rekor_sign loadsEmpty wrapping certifies marshalled uploads logged
    exact ⟨_, sig, rfl, ran, conveyed⟩

/-! ## The checks -/

theorem verifyBundle_conveyed (exclude : KindsExclude p) (nonempty : signature ≠ [])
    (conveys : Conveys p.pem sig payload signature leaf (some bundle))
    (logged : Logged p (rekorEntry p payload signature key) entry bundle)
    (timely : ∀ cert, leaf = some cert →
      cert.ValidAt (Time.unix bundle.payload.integratedTime)) :
    verifyBundle p sig.toSignature = .ok (true, none) := by
  obtain ⟨body, text, obj, reads, hash, recorded⟩ := logged.records
  obtain ⟨keys, pubKey, trusted, found, timestamp⟩ := logged.signed
  have consulted : consulted p false body = .ok (.hashedrekord obj) :=
    consulted_of_reads exclude reads recorded
  have checked : BundleChecked p sig.toSignature bundle body (Base64.stdEncode signature) pubKey :=
    { carried := conveys.bundle
      text := text
      base64 := conveys.base64
      agrees := .inr ⟨_, _, consulted, recorded, .inr rfl⟩
      registered := ⟨keys, trusted, found⟩
      signed := timestamp }
  refine verifyBundle_accepts.mpr ⟨rfl, bundle, body, _, pubKey, checked, ?_⟩
  cases leaf with
  | none => exact .inl conveys.cert
  | some cert =>
    have written : ((Base64.stdEncode signature).length == 0) = false := by
      rw [beq_eq_false_iff_ne, ne_eq, String.length_eq_zero_iff, Base64.stdEncode_eq_empty]
      exact nonempty
    refine .inr ⟨cert, payload, .hashedrekord obj,
      ⟨conveys.cert, timely cert rfl, conveys.payload, ?_⟩, hash⟩
    rw [written]
    exact consulted

/-- A signature passes the checks that it was made for: the key, the claims of the payload and
the log entry. -/
structure Passes (p : Platform) (verifier : Verifier) (payload : Bytes) (sig : Signature) :
    Prop where
  /-- `verifyOCISignature` under the key. -/
  signature : verifyOCISignature verifier sig = none
  /-- `SimpleClaimVerifier` for the digest that the payload was built for, with any annotations
  that it was built with. -/
  claims : ∀ repository digest annotations wanted,
    payload = cosignPayload repository digest annotations →
    (∀ asked, wanted = some asked →
      correctAnnotations asked (optionalMembers annotations) = true) →
    simpleClaimVerifier sig digest wanted = none
  bundle : verifyBundle p sig = .ok (true, none)

/-- The claims of a payload hold for the digest that it was built for. -/
theorem simpleClaimVerifier_built {sig : Signature} {repository : String} {digest : Hash}
    {annotations : Option (List (String × String))} {wanted : Option (GoMap String)}
    (read : sig.payload = .ok (cosignPayload repository digest annotations))
    (given : ∀ asked, wanted = some asked →
      correctAnnotations asked (optionalMembers annotations) = true) :
    simpleClaimVerifier sig digest wanted = none := by
  unfold simpleClaimVerifier
  simp only [read, unmarshal_cosignPayload]
  rw [if_neg (not_not_intro rfl)]
  cases wanted with
  | none => rfl
  | some asked => exact if_pos (given asked rfl)

/-- What conveys a signature of a key pair and an entry of the log passes the checks. -/
theorem passes_conveyed (exclude : KindsExclude p) (pair : KeyPair s verifier)
    (signed : s.signMessage payload [⟨"WithContext"⟩] = .ok signature)
    (conveys : Conveys p.pem sig payload signature leaf (some bundle))
    (logged : Logged p (rekorEntry p payload signature key) entry bundle)
    (timely : ∀ cert, leaf = some cert →
      cert.ValidAt (Time.unix bundle.payload.integratedTime)) :
    Passes p verifier payload sig.toSignature where
  signature := verifyOCISignature_eq_none.mpr ⟨_, signature, payload, conveys.base64,
    Base64.stdDecode_stdEncode _, conveys.payload, pair.verifies _ _ _ signed⟩
  claims repository digest annotations wanted built given := by
    rw [built] at conveys
    exact simpleClaimVerifier_built conveys.payload given
  bundle := verifyBundle_conveyed exclude (pair.nonempty _ _ _ signed) conveys logged timely

/-- **What is signed with a bundle verifies.** For every payload, key pair, certificate and chain
that load (or none) and log that returns the entry that was proposed, with a timestamp of a known
log inside the validity of the certificate: the stacked signers sign, and the signature, attached to
any entity and uploaded, is read back last, where it passes every check that it was made for. -/
theorem signed_bundle_verifies (exclude : KindsExclude p) (loadsEmpty : LoadsEmpty p.pem)
    (pair : KeyPair s verifier) (signed : s.signMessage payload [⟨"WithContext"⟩] = .ok signature)
    (owned : s.publicKey [⟨"WithContext"⟩] = .ok pub)
    (certified : Certified p.pem chainPem certPem leaf)
    (marshalled : rekorKey p leaf pub = .ok key)
    (uploads : Uploads p client (rekorEntry p payload signature key) entry)
    (logged : Logged p (rekorEntry p payload signature key) entry bundle)
    (timely : ∀ cert, leaf = some cert →
      cert.ValidAt (Time.unix bundle.payload.integratedTime)) :
    ∃ signer sig, stackSigners p s certPem chainPem client = .ok signer ∧
      signer.sign (.ok payload) = .ok (.ok (sig, pub)) ∧
      ∀ se base layers opts, se.signatures = .ok (.ok base) →
        base.image.published = .ok layers →
        findExisting (makeSignOpts opts) base sig = .ok none →
        ∃ next all before read,
          (attachSignatureToEntity se sig opts).signatures = .ok (.ok next) ∧
          next.image.published = .ok all ∧
          sigsGet p.pem (.ofStored all) = .ok (before ++ [read]) ∧
          Passes p verifier payload read.toSignature := by
  obtain ⟨signer, sig, stacked, ran, conveys⟩ :=
    stacked_sign loadsEmpty signed owned certified marshalled uploads logged
  refine ⟨signer, sig, stacked, ran, fun se base layers opts attested published novel => ?_⟩
  obtain ⟨stored, stores⟩ := conveys.readable
  obtain ⟨next, attached, publishes⟩ := attached_published stores attested published novel
  have same := toSignature_eq_downloaded stores.corresponds
    (conveys.survives.meansSame conveys.readable)
  refine ⟨next, layers ++ [stored], layers.map (downloaded p.pem), downloaded p.pem stored,
    attached, publishes, ?_, ?_⟩
  · rw [sigsGet_ofStored, List.map_append]
    rfl
  · rw [← same]
    exact passes_conveyed exclude pair signed conveys logged timely

/-- The sample platform with a loader of certificates. -/
def signingPlatform : Platform := { samplePlatform with pem := sampleLoader }

/-- The signer of the sample. -/
def sampleSigner : MessageSigner where
  signMessage _ _ := .ok [1]
  publicKey _ := .ok sampleKey

/-- The spec of the entry for the payload, the signature and the certificate. -/
def signedSpec : Json := .obj
  [("data", sampleHashField (Hex.encodeToString sampleDigest)),
    ("signature", .obj [("content", .str "AQ=="),
      ("publicKey", .obj [("content", .str "bGVhZg==")])])]

/-- The entry of the sample log with that spec. -/
def signedEntry : LogEntryAnon where
  body := sampleBody "hashedrekord" signedSpec
  integratedTime := some 1650000000
  logIndex := some 0
  logID := some "e52d9c508c502347344d8c07ad91cbd6068afc75ff6292f062a09ca381c89e71"
  verification := some ⟨none, [1]⟩

/-- A log that answers with that entry. -/
def signingLog : LogClient where
  searchLogQuery _ := .ok []
  getPublicKey := .ok ""
  searchIndex _ := .ok []
  getLogEntryByUUID _ _ := .ok ∅
  createLogEntry _ := .ok (AList.singleton "0" signedEntry)

/-- The tree of the entry. -/
def signedTree : Json := .obj [("kind", .str "hashedrekord"), ("spec", signedSpec)]

/-- The entry reads as the payload, the signature and the certificate. -/
theorem signedEntry_reads :
    Reads signingPlatform (Base64.stdEncode (Json.marshal signedTree)) (.hashedrekord
      ⟨some (some ⟨some "sha256", some (Hex.encodeToString sampleDigest)⟩),
        some ⟨[1], some (utf8Bytes "leaf")⟩⟩) :=
  reads_hashedrekordSpec ⟨rfl, rfl⟩ rfl rfl

/-- The entry is what was proposed, in a log that the sample knows. -/
theorem signedEntry_logged :
    Logged signingPlatform (rekorEntry signingPlatform samplePayload [1] (utf8Bytes "leaf"))
      signedEntry (sampleBundle signedEntry.body) where
  body := rfl
  integratedTime := rfl
  logIndex := rfl
  logID := rfl
  timestamp := ⟨none, rfl⟩
  records := ⟨Base64.stdEncode (Json.marshal signedTree), rfl, _, signedEntry_reads, rfl, rfl⟩
  signed := ⟨_, _, rfl, rfl, rfl⟩

theorem sampleSigner_pair : KeyPair sampleSigner sampleVerifier where
  verifies message opts signature made := by
    rw [← Except.ok.inj made]
    rfl
  nonempty message opts signature made := by
    rw [← Except.ok.inj made]
    exact List.cons_ne_nil _ _

theorem signingPlatform_excludes : KindsExclude signingPlatform :=
  ⟨samplePlatform_excludes.1, samplePlatform_excludes.2, samplePlatform_excludes.3⟩

/-- A run with a certificate and a chain, on an image that has no signatures yet. -/
theorem signed_bundle_verifies_certified :
    ∃ signer sig, stackSigners signingPlatform sampleSigner (some "leaf") (some "intermediate")
        signingLog = .ok signer ∧
      signer.sign (.ok samplePayload) = .ok (.ok (sig, sampleKey)) ∧
      ∃ next all before read,
        (attachSignatureToEntity ⟨.image, .ok sampleImage, .ok (.ok emptySignatures),
          .ok (.ok emptySignatures)⟩ sig []).signatures = .ok (.ok next) ∧
        next.image.published = .ok all ∧
        sigsGet sampleLoader (.ofStored all) = .ok (before ++ [read]) ∧
        verifyBundle signingPlatform read.toSignature = .ok (true, none) := by
  have certified : Certified sampleLoader (some "intermediate") (some "leaf")
      (some { sampleCert with raw := utf8Bytes "leaf" }) :=
    .certified rfl fun chain given => Option.some.inj given ▸ ⟨_, rfl⟩
  have answered : signingLog.createLogEntry (rekorEntry signingPlatform samplePayload [1]
      (utf8Bytes "leaf")) = .ok (AList.singleton "0" signedEntry) := rfl
  obtain ⟨signer, sig, stacked, ran, checks⟩ :=
    signed_bundle_verifies signingPlatform_excludes sampleLoader_empty sampleSigner_pair rfl rfl
      certified rfl (.created answered rfl) signedEntry_logged
      fun cert given => Option.some.inj given ▸ ⟨by decide, by decide⟩
  obtain ⟨next, all, before, read, attached, published, list, passes⟩ :=
    checks ⟨.image, .ok sampleImage, .ok (.ok emptySignatures), .ok (.ok emptySignatures)⟩
      emptySignatures [] [] rfl rfl rfl
  exact ⟨signer, sig, stacked, ran, next, all, before, read, attached, published, list,
    passes.bundle⟩

end Cosign.Verif
