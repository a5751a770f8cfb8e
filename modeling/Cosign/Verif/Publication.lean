import Cosign.Remote.Registry
import Cosign.Spec.Growth
import Cosign.Verif.SignatureList

/-!
# Published signatures only grow

Every operation of the sign and attach-signature commands reads the list of a digest, appends at
most its signature and writes the list back. No other digest and no other suffix has its tag
(`suffixTag_injective`). So over the lists of the registry an operation appends at most one value
under one key (`run_appends`), and one that fails changes nothing (`run_failed`).
-/
namespace Cosign.Verif

open Cosign.Go Cosign.Encoding Cosign.Oci Cosign.Remote Cosign.Spec
open Cosign.Verify (Repository)

variable {pem : PemLoader} {registry next : Registry} {faults : Faults} {tag : Tag}
  {opts : List TagOption} {op : Operation} {outcome : Call (Option GoError)}

/-! ## Tags -/

/-- What follows the digest in a tag. -/
def tagEnd (suffix : String) : List Char :=
  if suffix = "" then [] else '.' :: suffix.toList

theorem toList_normalize (h : Hash) (tagPrefix suffix : String) :
    (Remote.normalize h tagPrefix suffix).toList = tagPrefix.toList ++ (h.algorithm.toList ++
      ('-' :: (h.hex.toList ++ tagEnd suffix))) := by
  unfold Remote.normalize tagEnd
  split <;> simp

theorem tagEnd_injective {suffix other : String} (same : tagEnd suffix = tagEnd other) :
    suffix = other := by
  unfold tagEnd at same
  by_cases blank : suffix = ""
  · by_cases otherBlank : other = ""
    · rw [blank, otherBlank]
    · rw [if_pos blank, if_neg otherBlank] at same
      cases same
  · by_cases otherBlank : other = ""
    · rw [if_neg blank, if_pos otherBlank] at same
      cases same
    · rw [if_neg blank, if_neg otherBlank] at same
      exact String.toList_inj.mp (List.cons.inj same).2

/-- A tag determines the digest and the suffix that it is made of. -/
theorem normalize_injective {digest other : Digest} {tagPrefix suffix otherSuffix : String}
    (same : Remote.normalize digest.hash tagPrefix suffix =
      Remote.normalize other.hash tagPrefix otherSuffix) :
    digest.hash = other.hash ∧ suffix = otherSuffix := by
  have chars := congrArg String.toList same
  rw [toList_normalize, toList_normalize, digest.sha256, other.sha256] at chars
  have tails := (List.cons.inj (List.append_cancel_left (List.append_cancel_left chars))).2
  obtain ⟨hex, ends⟩ := List.append_inj tails (digest.sized.trans other.sized.symm)
  refine ⟨?_, tagEnd_injective ends⟩
  have algorithms := digest.sha256.trans other.sha256.symm
  have hexes := String.toList_inj.mp hex
  generalize digest.hash = first at *
  generalize other.hash = second at *
  cases first
  cases second
  simp only at algorithms hexes
  rw [algorithms, hexes]

/-- Options that name tags in the same way, in whatever repository. -/
structure SameNames (o other : Options) : Prop where
  /-- The same prefix. -/
  tagPrefix : o.tagPrefix = other.tagPrefix
  /-- The same suffix of signatures. -/
  signature : o.signatureSuffix = other.signatureSuffix
  /-- The same suffix of attestations. -/
  attestation : o.attestationSuffix = other.attestationSuffix
  /-- The same suffix of SBOMs. -/
  sbom : o.sbomSuffix = other.sbomSuffix

theorem SameNames.apply {o other : Options} (same : SameNames o other) (option : TagOption) :
    SameNames (option.apply o) (option.apply other) := by
  cases option with
  | withPrefix tagPrefix => exact ⟨rfl, same.signature, same.attestation, same.sbom⟩
  | withSignatureSuffix suffix => exact ⟨same.tagPrefix, rfl, same.attestation, same.sbom⟩
  | withAttestationSuffix suffix => exact ⟨same.tagPrefix, same.signature, rfl, same.sbom⟩
  | withSBOMSuffix suffix => exact ⟨same.tagPrefix, same.signature, same.attestation, rfl⟩
  | withTargetRepository repo =>
    exact ⟨same.tagPrefix, same.signature, same.attestation, same.sbom⟩

/-- One option list names tags in the same way for every repository. -/
theorem makeOptions_names (repository other : Repository) (opts : List TagOption) :
    SameNames (makeOptions repository opts) (makeOptions other opts) := by
  unfold makeOptions
  have start : SameNames ⟨"sig", "att", "sbom", "", repository⟩ ⟨"sig", "att", "sbom", "", other⟩ :=
    ⟨rfl, rfl, rfl, rfl⟩
  generalize Options.mk "sig" "att" "sbom" "" repository = first at start ⊢
  generalize Options.mk "sig" "att" "sbom" "" other = second at start ⊢
  induction opts generalizing first second with
  | nil => exact start
  | cons option rest ih => exact ih _ _ (start.apply option)

/-- Under one option list, tags agree only for one digest and one suffix. -/
theorem suffixTag_injective {repository other : Repository} {digest otherDigest : Digest}
    {suffix otherSuffix : String}
    (same : (makeOptions repository opts).suffixTag digest.hash suffix =
      (makeOptions other opts).suffixTag otherDigest.hash otherSuffix) :
    digest.hash = otherDigest.hash ∧ suffix = otherSuffix := by
  have identifiers := congrArg Tag.identifier same
  unfold Options.suffixTag at identifiers
  rw [(makeOptions_names repository other opts).tagPrefix] at identifiers
  exact normalize_injective identifiers

/-! ## One operation -/

/-- The layers under a tag; an absent tag has none. -/
def layersAt (registry : Registry) (tag : Tag) : List StoredLayer :=
  (registry.images tag).getD []

/-- The list of signatures that is read is what the tag holds: a tag that is there is not read as
an empty list. -/
theorem signatures_published {base : Signatures}
    (read : signatures pem registry faults tag = .ok base) :
    base.image.published = .ok (layersAt registry tag) := by
  unfold signatures remoteImage at read
  unfold layersAt
  cases fault : faults.image tag with
  | some err =>
    simp only [fault] at read
    cases err with
    | other err => cases read
    | transport statusCode err =>
      by_cases absent : statusCode = statusNotFound
      · rw [absent] at fault
        exact absurd fault (faults.present tag err)
      · simp only [ne_eq, absent, not_false_eq_true, if_true] at read
        cases read
  | none =>
    cases held : registry.images tag with
    | none =>
      simp only [fault, held, ne_eq, not_true_eq_false, if_false, Except.ok.injEq] at read
      rw [← read]
      rfl
    | some layers =>
      simp only [fault, held, Except.ok.injEq] at read
      rw [← read]
      exact published_ofStored

/-- The registry with other layers under a tag. -/
def written (registry : Registry) (tag : Tag) (layers : List StoredLayer) : Registry :=
  { registry with images := Function.update registry.images tag (some layers) }

/-- A write changes nothing, or it puts what the image publishes under the tag. -/
theorem remoteWrite_eq (registry : Registry) (faults : Faults) (tag : Tag) (image : Image) :
    (∃ err, remoteWrite registry faults tag image = (registry, some err)) ∨
      ∃ layers, image.published = .ok layers ∧
        remoteWrite registry faults tag image = (written registry tag layers, none) := by
  unfold remoteWrite
  cases faults.write with
  | some err => exact .inl ⟨err, rfl⟩
  | none =>
    cases published : image.published with
    | error err => exact .inl ⟨err, rfl⟩
    | ok layers => exact .inr ⟨layers, rfl, rfl⟩

/-- A list is not written, or it is written under the tag of its digest. -/
theorem writeList_eq (registry : Registry) (faults : Faults)
    (list : Call (Except GoError Signatures)) (digest : Except GoError Hash) (tagOf : Hash → Tag) :
    (∃ failure ≠ .ok none, writeList registry faults list digest tagOf = (registry, failure)) ∨
      ∃ sigs h layers, list = .ok (.ok sigs) ∧ digest = .ok h ∧
        sigs.image.published = .ok layers ∧
        writeList registry faults list digest tagOf =
          (written registry (tagOf h) layers, .ok none) := by
  have failed : ∀ err : GoError, (Except.ok (some err) : Call (Option GoError)) ≠ .ok none :=
    fun err same => Option.some_ne_none err (Except.ok.inj same)
  unfold writeList
  cases list with
  | error panic =>
    refine .inl ⟨.error panic, ?_, rfl⟩
    intro same
    cases same
  | ok read =>
    cases read with
    | error err => exact .inl ⟨_, failed err, rfl⟩
    | ok sigs =>
      cases digest with
      | error err => exact .inl ⟨_, failed err, rfl⟩
      | ok h =>
        cases remoteWrite_eq registry faults (tagOf h) sigs.image with
        | inl refused =>
          obtain ⟨err, refused⟩ := refused
          exact .inl ⟨_, failed err, by simp only [refused]⟩
        | inr stored =>
          obtain ⟨layers, published, stored⟩ := stored
          exact .inr ⟨sigs, h, layers, rfl, rfl, published, by simp only [stored]⟩

theorem signedEntity_eq_ok {repository : Repository} {digest : Digest} {se : SignedEntity}
    (found : signedEntity pem registry faults repository digest opts = .ok se) :
    ∃ kind,
      se = remoteEntity pem registry faults kind digest.hash (makeOptions repository opts) := by
  unfold signedEntity at found
  split at found
  · split at found <;> cases found
  · cases found
  · split at found
    · cases found
    · cases found
    · exact ⟨_, (Except.ok.inj found).symm⟩

/-- What an operation does: it fails and changes nothing, or it succeeds and writes, under the
signature tag of its digest, the layers that were there or those and its signature. -/
theorem run_eq (pem : PemLoader) (opts : List TagOption) (registry : Registry) (op : Operation) :
    (∃ failure ≠ .ok none, op.run pem opts registry = (registry, failure)) ∨
      ∃ layers, op.run pem opts registry =
          (written registry (signatureTag op.repository op.digest opts) layers, .ok none) ∧
        (layers = layersAt registry (signatureTag op.repository op.digest opts) ∨
          ∃ stored, Stores op.sig stored ∧
            layers =
              layersAt registry (signatureTag op.repository op.digest opts) ++ [stored]) := by
  unfold Operation.run
  cases found : signedEntity pem registry op.faults op.repository op.digest opts with
  | error err =>
    exact .inl ⟨_, fun same => Option.some_ne_none err (Except.ok.inj same), rfl⟩
  | ok se =>
    obtain ⟨kind, seIs⟩ := signedEntity_eq_ok found
    cases writeList_eq registry op.faults
      (attachSignatureToEntity se op.sig op.signOpts).signatures
      (attachSignatureToEntity se op.sig op.signOpts).digest _ with
    | inl failed => exact .inl failed
    | inr succeeded =>
      obtain ⟨sigs, h, layers, listed, digested, published, wrote⟩ := succeeded
      obtain ⟨base, read, extended⟩ := attachedSignatures_eq_ok listed
      rw [seIs] at read digested
      have hashIs : op.digest.hash = h := Except.ok.inj digested
      have held := signatures_published (Except.ok.inj read)
      rw [← hashIs] at wrote
      refine .inr ⟨layers, wrote, ?_⟩
      cases extended with
      | inl same =>
        rw [← same, held] at published
        exact .inl (Except.ok.inj published).symm
      | inr appended =>
        obtain ⟨old, new, oldIs, stores, layersAre⟩ :=
          ((appendSignatures_eq_ok appended).2 layers).mp published
        rw [held] at oldIs
        obtain ⟨stored, rest, stores, nothing, newIs⟩ := List.forall₂_cons_left_iff.mp stores
        rw [List.forall₂_nil_left_iff.mp nothing] at newIs
        rw [layersAre, newIs, ← Except.ok.inj oldIs]
        exact .inr ⟨stored, stores, rfl⟩

theorem run_failed (ran : op.run pem opts registry = (next, outcome))
    (failed : outcome ≠ .ok none) : next = registry := by
  cases run_eq pem opts registry op with
  | inl refused =>
    obtain ⟨failure, -, refused⟩ := refused
    exact congrArg Prod.fst (ran.symm.trans refused)
  | inr succeeded =>
    obtain ⟨layers, succeeded, -⟩ := succeeded
    exact absurd (congrArg Prod.snd (ran.symm.trans succeeded)) failed

theorem layersAt_written (registry : Registry) (tag : Tag) (layers : List StoredLayer) :
    layersAt (written registry tag layers) = Function.update (layersAt registry) tag layers := by
  funext other
  show (Function.update registry.images tag (some layers) other).getD [] = _
  by_cases same : other = tag
  · rw [same, Function.update_self, Function.update_self]
    rfl
  · rw [Function.update_of_ne same, Function.update_of_ne same]
    rfl

/-- Over the lists of the registry, an operation appends at most its signature under its tag. -/
theorem run_appends (pem : PemLoader) (opts : List TagOption) (registry : Registry)
    (op : Operation) :
    Appends (signatureTag op.repository op.digest opts) (Stores op.sig) (layersAt registry)
      (layersAt (op.run pem opts registry).1) := by
  cases run_eq pem opts registry op with
  | inl failed =>
    obtain ⟨failure, -, ran⟩ := failed
    rw [ran]
    exact .kept rfl
  | inr succeeded =>
    obtain ⟨layers, ran, either⟩ := succeeded
    rw [ran, layersAt_written]
    cases either with
    | inl same =>
      rw [same, Function.update_eq_self]
      exact .kept rfl
    | inr appended =>
      obtain ⟨stored, stores, added⟩ := appended
      rw [added]
      exact .appended stores rfl

theorem run_elsewhere (pem : PemLoader) (opts : List TagOption) (registry : Registry)
    (op : Operation) (elsewhere : tag ≠ signatureTag op.repository op.digest opts) :
    (op.run pem opts registry).1.images tag = registry.images tag := by
  cases run_eq pem opts registry op with
  | inl failed =>
    obtain ⟨failure, -, ran⟩ := failed
    rw [ran]
  | inr succeeded =>
    obtain ⟨layers, ran, -⟩ := succeeded
    rw [ran]
    exact Function.update_of_ne elsewhere _ _

/-! ## Any number of operations -/

/-- Over any number of operations the lists of the registry grow. -/
theorem runAll_grows (pem : PemLoader) (opts : List TagOption) (registry : Registry)
    (ops : List Operation) : Grows (layersAt registry) (layersAt (runAll pem opts registry ops)) :=
  grows_foldl (fun reached op => (run_appends pem opts reached op).grows) registry ops

/-- The signature list of a digest as it is read back when no call fails. -/
def readBack (pem : PemLoader) (opts : List TagOption) (registry : Registry)
    (repository : Repository) (digest : Digest) : Except GoError (List OciSignature) := do
  let sigs ← signatures pem registry .nothing (signatureTag repository digest opts)
  sigs.get

theorem readBack_eq (pem : PemLoader) (opts : List TagOption) (registry : Registry)
    (repository : Repository) (digest : Digest) :
    readBack pem opts registry repository digest =
      .ok ((layersAt registry (signatureTag repository digest opts)).map (downloaded pem)) := by
  unfold readBack signatures remoteImage layersAt
  cases held : registry.images (signatureTag repository digest opts) with
  | none => rfl
  | some layers => exact sigsGet_ofStored

/-- The suffix of signatures is neither that of attestations nor that of SBOMs. -/
structure DistinctSuffixes (opts : List TagOption) : Prop where
  /-- Attestations have another suffix. -/
  attestation : ∀ repository, (makeOptions repository opts).attestationSuffix ≠
    (makeOptions repository opts).signatureSuffix
  /-- SBOMs have another suffix. -/
  sbom : ∀ repository, (makeOptions repository opts).sbomSuffix ≠
    (makeOptions repository opts).signatureSuffix

/-- The tag of another digest, or with another suffix, is not the signature tag. -/
theorem suffixTag_ne {repository other : Repository} {digest otherDigest : Digest}
    {suffix : String} (different : digest.hash ≠ otherDigest.hash ∨
      suffix ≠ (makeOptions repository opts).signatureSuffix) :
    (makeOptions repository opts).suffixTag digest.hash suffix ≠
      signatureTag other otherDigest opts := by
  intro same
  obtain ⟨hashes, suffixes⟩ := suffixTag_injective same
  rw [(makeOptions_names other repository opts).signature] at suffixes
  exact different.elim (fun unlike => unlike hashes) fun unlike => unlike suffixes

/-- **Published signatures only grow.** After any run of operations on a registry, whatever calls
failed in it, the next operation fails and changes nothing, or the list that is read back for its
digest is the one before or that with its signature appended. It touches nothing of another digest
and no other list of its own, and every list still begins with the one that was there at the start.
-/
theorem published_only_grow (distinct : DistinctSuffixes opts) (start : Registry)
    (before : List Operation) (op : Operation) {reached : Registry}
    (reach : runAll pem opts start before = reached)
    (ran : op.run pem opts reached = (next, outcome)) :
    (outcome ≠ .ok none → next = reached) ∧
    (outcome = .ok none → ∃ list, readBack pem opts reached op.repository op.digest = .ok list ∧
      (readBack pem opts next op.repository op.digest = .ok list ∨
        ∃ stored, Stores op.sig stored ∧ readBack pem opts next op.repository op.digest =
          .ok (list ++ [downloaded pem stored]))) ∧
    (∀ repository (digest : Digest) suffix, digest.hash ≠ op.digest.hash →
      next.images ((makeOptions repository opts).suffixTag digest.hash suffix) =
        reached.images ((makeOptions repository opts).suffixTag digest.hash suffix)) ∧
    (∀ repository,
      next.images (attestationTag repository op.digest opts) =
        reached.images (attestationTag repository op.digest opts) ∧
      next.images (sbomTag repository op.digest opts) =
        reached.images (sbomTag repository op.digest opts) ∧
      ∀ name ≠ (makeOptions repository opts).signatureSuffix,
        next.images ((makeOptions repository opts).suffixTag op.digest.hash name) =
          reached.images ((makeOptions repository opts).suffixTag op.digest.hash name)) ∧
    ∀ repository digest, ∃ list grown, readBack pem opts start repository digest = .ok list ∧
      readBack pem opts next repository digest = .ok (list ++ grown) := by
  have nextIs : (op.run pem opts reached).1 = next := congrArg Prod.fst ran
  have appends := run_appends pem opts reached op
  rw [nextIs] at appends
  have elsewhere : ∀ repository (digest : Digest) suffix, digest.hash ≠ op.digest.hash ∨
      suffix ≠ (makeOptions repository opts).signatureSuffix →
      next.images ((makeOptions repository opts).suffixTag digest.hash suffix) =
        reached.images ((makeOptions repository opts).suffixTag digest.hash suffix) := by
    intro repository digest suffix different
    rw [← nextIs]
    exact run_elsewhere pem opts reached op (suffixTag_ne different)
  refine ⟨run_failed ran, fun _ => ?_, ?_, ?_, ?_⟩
  · simp only [readBack_eq]
    refine ⟨_, rfl, ?_⟩
    cases appends.here with
    | inl same => exact .inl (by rw [same])
    | inr added =>
      obtain ⟨stored, stores, added⟩ := added
      exact .inr ⟨stored, stores, by rw [added, List.map_append]; rfl⟩
  · exact fun repository digest suffix different =>
      elsewhere repository digest suffix (.inl different)
  · exact fun repository => ⟨elsewhere repository _ _ (.inr (distinct.attestation repository)),
      elsewhere repository _ _ (.inr (distinct.sbom repository)),
      fun name different => elsewhere repository _ name (.inr different)⟩
  · intro repository digest
    have grows := runAll_grows pem opts start before
    rw [reach] at grows
    obtain ⟨grown, added⟩ := (grows.trans appends.grows) (signatureTag repository digest opts)
    simp only [readBack_eq]
    exact ⟨_, grown.map (downloaded pem), rfl, by rw [← added, List.map_append]⟩

/-- A repository of the sample registry. -/
def sampleRepository : Repository := ⟨"registry.example.com", false, "app"⟩

/-- A digest of the sample registry. -/
def sampleManifest : Digest where
  hash := ⟨"sha256", "9f64a747e1b97f131fabb6b447296c9b6f0201e79fb3c5356e6c77e89b6a806a"⟩
  sha256 := rfl
  sized := rfl

/-- A registry with one image and no signatures. -/
def sampleRegistry : Registry where
  manifests _ _ := some "application/vnd.oci.image.manifest.v1+json"
  images _ := none

/-- The signature of the sample is added to that image. -/
def sampleOperation : Operation where
  repository := sampleRepository
  digest := sampleManifest
  sig := sampleAttestation
  signOpts := []
  faults := .nothing

theorem distinctSuffixes_default : DistinctSuffixes [] where
  attestation _ := show "att" ≠ "sig" by decide
  sbom _ := show "sbom" ≠ "sig" by decide

/-- The same signature is added twice: the second operation succeeds too, and the list that is
read back is the one after the first, or that and the signature. -/
theorem published_only_grow_again :
    ∃ reached next, runAll sampleLoader [] sampleRegistry [sampleOperation] = reached ∧
      sampleOperation.run sampleLoader [] reached = (next, .ok none) ∧
      ∃ list, readBack sampleLoader [] reached sampleRepository sampleManifest = .ok list ∧
        (readBack sampleLoader [] next sampleRepository sampleManifest = .ok list ∨
          ∃ stored, Stores sampleAttestation stored ∧
            readBack sampleLoader [] next sampleRepository sampleManifest =
              .ok (list ++ [downloaded sampleLoader stored])) := by
  have fine : (sampleOperation.run sampleLoader []
      (runAll sampleLoader [] sampleRegistry [sampleOperation])).2 = .ok none := rfl
  have ran := Prod.ext_iff.mpr ⟨rfl, fine⟩
  exact ⟨_, _, rfl, ran, (published_only_grow distinctSuffixes_default sampleRegistry
    [sampleOperation] sampleOperation rfl ran).2.1 rfl⟩

end Cosign.Verif
