import Cosign.Verif.Duplicates

/-!
# What `attest --replace` publishes

A replaced list of attestations is intended to be the new attestation followed by the existing ones
of other predicate types. `signedImageIndex` publishes just that list. `signedImage` appends
nothing, and the image of the replace operation is the old one: on an image the new attestation is
not published at all.
-/
namespace Cosign.Verif

open Cosign.Go Cosign.Encoding Cosign.Oci Cosign.Remote Cosign.Verify

variable {base atts : Signatures} {att : OciSignature} {existing : List OciSignature}
  {predicateURI : String} {so : SignOpts}

/-- A list of attestations that a registry holds: each can be read, has a predicate type and has
no signature outside its payload. -/
structure HoldsAttestations (base : Signatures) (existing : List OciSignature) : Prop where
  /-- `Get` returns the list. -/
  read : base.get = .ok existing
  /-- The list agrees with the layers of the image. -/
  coherent : Coherent base
  /-- Every attestation can be uploaded again. -/
  readable : ∀ sig ∈ existing, Readable sig
  /-- Every attestation has a predicate type. -/
  typed : ∀ sig ∈ existing, Typed sig
  /-- The signature of an attestation is inside its payload. -/
  unsigned : ∀ sig ∈ existing, sig.base64Signature = .ok ""

/-- The options of `attest --replace`: the replace operation for a predicate type and, if any,
the duplicate detector of the command. -/
structure ReplaceOptions (so : SignOpts) (predicateURI : String) : Prop where
  /-- The replace operation. -/
  replaces : so.ro = some (newReplaceOp predicateURI)
  /-- The duplicate detector. -/
  detects : so.dd = none ∨ ∃ verifier, so.dd = some (newDupeDetector verifier)

/-- The layers that an upload of `atts` publishes are the new attestation and then the existing
ones of another predicate type, in their order. -/
def PublishesIntended (predicateURI : String) (att : OciSignature) (existing : List OciSignature)
    (atts : Signatures) : Prop :=
  ∃ layers, atts.image.published = .ok layers ∧
    List.Forall₂ Corresponds (att :: existing.filter fun sig => !hasPredicate predicateURI sig)
      layers

theorem findExisting_none (holds : HoldsAttestations base existing) (readable : Readable att)
    (options : ReplaceOptions so predicateURI) : findExisting so base att = .ok none := by
  unfold findExisting
  cases options.detects with
  | inl absent => rw [absent]
  | inr present =>
    obtain ⟨verifier, ddIs⟩ := present
    obtain ⟨stored, stores⟩ := readable
    rw [ddIs]
    exact find_unsigned ⟨stores.digest, stores.mediaType, stores.annotations⟩ holds.read
      holds.unsigned

/-- The list that the replace operation hands on. -/
def replacedList (predicateURI : String) (base : Signatures) (att : OciSignature)
    (existing : List OciSignature) : Signatures :=
  ⟨base.image, .ok (att :: existing.filter fun sig => !hasPredicate predicateURI sig)⟩

/-- The attestations of an entity with one attached by the replace operation are the replaced
list, as the entity publishes it. -/
theorem attached_replaced {se : SignedEntity} {publish : Signatures → Except GoError Signatures}
    (attested : se.attestations = .ok (.ok base)) (holds : HoldsAttestations base existing)
    (readable : Readable att) (options : ReplaceOptions so predicateURI) :
    attached se.attestations (some att) so (extendAttestations so publish) =
      .ok (publish (replacedList predicateURI base att existing)) := by
  have replaced : (newReplaceOp predicateURI).replace base att =
      .ok (.ok (replacedList predicateURI base att existing)) :=
    replace_eq_ok.mpr ⟨existing, holds.read, holds.typed, rfl⟩
  unfold attached
  rw [attested]
  simp only [bind, Except.bind, findExisting_none holds readable options, extendAttestations,
    options.replaces, replaced]

/-- Appending nothing publishes the image of the list it is appended to. -/
theorem appendSignatures_nothing : appendSignatures base [] =
    .ok ⟨base.image, sigAppenderGet base []⟩ := rfl

theorem replaceSignatures_publishes (holds : HoldsAttestations base existing)
    (readable : Readable att) :
    ∃ atts, replaceSignatures (replacedList predicateURI base att existing) = .ok atts ∧
      PublishesIntended predicateURI att existing atts := by
  have all : ∀ sig ∈ att :: existing.filter (fun sig => !hasPredicate predicateURI sig),
      Readable sig := by
    rw [List.forall_mem_cons]
    exact ⟨readable, fun sig inside => holds.readable sig (List.mem_of_mem_filter inside)⟩
  obtain ⟨layers, stores⟩ := exists_stores all
  obtain ⟨adds, added⟩ : ∃ adds, List.mapM addendum
      (att :: existing.filter fun sig => !hasPredicate predicateURI sig) = .ok adds := by
    have uploaded := mapM_eq_ok.mpr (stores.imp fun _ _ => uploadSig_eq_ok.mpr)
    obtain ⟨adds, added, -⟩ := mapM_bind_eq_ok.mp uploaded
    exact ⟨adds, added⟩
  have ran : replaceSignatures (replacedList predicateURI base att existing) =
      .ok ⟨Image.empty.append adds, sigAppenderGet _ _⟩ :=
    bind_eq_value.mpr ⟨_, rfl, bind_eq_value.mpr ⟨adds, added, rfl⟩⟩
  refine ⟨_, ran, layers, ?_, stores.imp fun _ _ stored => stored.corresponds⟩
  exact (published_append_sigs added).mpr ⟨[], layers, rfl, stores, rfl⟩

/-- The image publishes the intended list only where that is the old one. -/
theorem appendSignatures_publishes_iff (predicateURI : String) (att : OciSignature)
    (holds : HoldsAttestations base existing) :
    ∃ atts, appendSignatures (replacedList predicateURI base att existing) [] = .ok atts ∧
      (PublishesIntended predicateURI att existing atts ↔
        AlreadyReplaced predicateURI att existing) := by
  refine ⟨_, appendSignatures_nothing, ?_⟩
  have replaced : replace predicateURI base att =
      .ok (.ok (replacedList predicateURI base att existing)) :=
    replace_eq_ok.mpr ⟨existing, holds.read, holds.typed, rfl⟩
  rw [← coherent_replace_iff holds.coherent holds.read replaced]
  constructor
  · rintro ⟨layers, published, related⟩
    exact ⟨_, layers, rfl, published, related⟩
  · rintro ⟨sl, layers, read, published, related⟩
    rw [← Except.ok.inj read] at related
    exact ⟨layers, published, related⟩

/-- **What `attest --replace` publishes**, for every entity and every list of attestations it has:
the intended list, exactly when the entity is an index or the list was the intended one already,
with the new attestation in front and no other of its type. -/
theorem replace_publishes_iff {se : SignedEntity} {opts : List SignOption}
    (attested : se.attestations = .ok (.ok base)) (holds : HoldsAttestations base existing)
    (readable : Readable att) (options : ReplaceOptions (makeSignOpts opts) predicateURI) :
    ∃ atts, (attachAttestationToEntity se att opts).attestations = .ok (.ok atts) ∧
      (PublishesIntended predicateURI att existing atts ↔
        se.kind = .index ∨ AlreadyReplaced predicateURI att existing) := by
  cases kind : se.kind with
  | image =>
    obtain ⟨atts, appended, publishes⟩ :=
      appendSignatures_publishes_iff predicateURI att holds
    refine ⟨atts, ?_, ?_⟩
    · simp only [attachAttestationToEntity, attach, kind, signedImageAttestations]
      rw [attached_replaced attested holds readable options, appended]
    · rw [publishes]
      exact ⟨.inr, fun either => either.resolve_left EntityKind.noConfusion⟩
  | index =>
    obtain ⟨atts, replaced, publishes⟩ := replaceSignatures_publishes holds readable
    refine ⟨atts, ?_, iff_of_true publishes (.inl rfl)⟩
    simp only [attachAttestationToEntity, attach, kind, signedImageIndexAttestations]
    rw [attached_replaced attested holds readable options, replaced]

/-- An attestation of predicate type `a`. -/
def oldEnvelope : Bytes := utf8Bytes "\x7b\"payload\":\"eyJwcmVkaWNhdGVUeXBlIjoiYSJ9\"\x7d"

/-- Another attestation of the same predicate type. -/
def newEnvelope : Bytes :=
  utf8Bytes "\x7b\"payload\":\"eyJwcmVkaWNhdGVUeXBlIjoiYSJ9\",\"signatures\":[]\x7d"

/-- An attestation as the registry stores it. -/
def storedAttestation (payload : Bytes) : StoredLayer :=
  ⟨⟨"application/vnd.dsse.envelope.v1+json", sha256Hash id payload,
    (∅ : GoMap String).insert sigkey ""⟩, payload⟩

/-- An entity whose only attestation is the old one. -/
def attestedEntity (kind : EntityKind) : SignedEntity where
  kind := kind
  digest := .ok ⟨"sha256", "00"⟩
  signatures := .ok (.ok emptySignatures)
  attestations := .ok (.ok (Oci.sigs sampleLoader (.ofStored [storedAttestation oldEnvelope])))

/-- The new attestation. -/
def newAttested : OciSignature :=
  StaticLayer.signature sampleLoader id ⟨newEnvelope, "", StaticOptions.given []⟩

theorem attestedEntity_holds :
    HoldsAttestations (Oci.sigs sampleLoader (.ofStored [storedAttestation oldEnvelope]))
      [downloaded sampleLoader (storedAttestation oldEnvelope)] where
  read := sigsGet_ofStored
  coherent := coherent_sigs
  readable sig inside := by
    rw [List.mem_singleton.mp inside]
    exact ⟨storedAttestation oldEnvelope, rfl, rfl, rfl, rfl⟩
  typed sig inside := by
    rw [List.mem_singleton.mp inside]
    exact ⟨.str "a", rfl⟩
  unsigned sig inside := by
    rw [List.mem_singleton.mp inside]
    rfl

/-- The options of the command. -/
def replaceA : List SignOption :=
  [.withDupeDetector (newDupeDetector sampleVerifier), .withReplaceOp (newReplaceOp "a")]

theorem replaceA_options : ReplaceOptions (makeSignOpts replaceA) "a" where
  replaces := rfl
  detects := .inr ⟨sampleVerifier, rfl⟩

theorem not_alreadyReplaced :
    ¬AlreadyReplaced "a" newAttested [downloaded sampleLoader (storedAttestation oldEnvelope)] := by
  rintro ⟨first, rest, listIs, payload, -⟩
  rw [← (List.cons.inj listIs).1] at payload
  exact absurd (Except.ok.inj payload) (by decide +kernel)

/-- `attest --replace` on an image with one attestation of the type: what is published is the old
attestation, and not the new one. -/
theorem old_attestation_published :
    ∃ atts, (attachAttestationToEntity (attestedEntity .image) newAttested replaceA).attestations =
        .ok (.ok atts) ∧
      atts.image.published = .ok [storedAttestation oldEnvelope] ∧
      ¬PublishesIntended "a" newAttested
        [downloaded sampleLoader (storedAttestation oldEnvelope)] atts := by
  obtain ⟨atts, appended, publishes⟩ :=
    appendSignatures_publishes_iff "a" newAttested attestedEntity_holds
  refine ⟨atts, ?_, ?_, ?_⟩
  · have attested : (attestedEntity .image).attestations = .ok (.ok _) := rfl
    rw [← appended]
    exact attached_replaced attested attestedEntity_holds (readable_static _) replaceA_options
  · rw [appendSignatures_nothing] at appended
    rw [← Except.ok.inj appended]
    exact published_ofStored
  · rw [publishes]
    exact not_alreadyReplaced

/-- On an index the same command publishes the new attestation only. -/
theorem replace_publishes_iff_index :
    ∃ atts, (attachAttestationToEntity (attestedEntity .index) newAttested replaceA).attestations =
        .ok (.ok atts) ∧
      PublishesIntended "a" newAttested
        [downloaded sampleLoader (storedAttestation oldEnvelope)] atts := by
  have attested : (attestedEntity .index).attestations = .ok (.ok _) := rfl
  obtain ⟨atts, ran, publishes⟩ :=
    replace_publishes_iff attested attestedEntity_holds (readable_static _) replaceA_options
  exact ⟨atts, ran, publishes.mpr (.inl rfl)⟩

end Cosign.Verif
