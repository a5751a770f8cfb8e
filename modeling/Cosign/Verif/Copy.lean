import Cosign.Verif.CopyCall
import Cosign.Verif.Walk

/-!
# The copy command, run by run

A run of `CopyCmd` is a walk over the source that makes the same few copies for every entity, and a
last copy that moves the destination tag. Everything before it writes what the source has
(`TreeWrites`), each reference one thing only, so that what has been copied stays.
-/
namespace Cosign.Verif

open Cosign.Go Cosign.Oci Cosign.Cli
open Cosign.Remote hiding remoteGet remoteWrite
open Cosign.Verify (Repository)
open Cosign.Go.Proc

/-- The destination before a run. -/
def World.start (manifests : Manifests) : World := ⟨manifests, 0, []⟩

section Tree

variable (s : Session)

/-- A derived tag and its destination. -/
def tagCopy (srcRepo dstRepo : Repository) (digest : Digest) (tm : TagMap) :
    Reference × Reference :=
  (.tag (tm.tag srcRepo digest), .tag ⟨dstRepo, (tm.tag srcRepo digest).identifier⟩)

/-- An entity and its destination. -/
def entityCopy (srcRepo dstRepo : Repository) (digest : Digest) : Reference × Reference :=
  (.digest srcRepo digest, .tag ⟨dstRepo, digest.hash.string⟩)

/-- The references that are copied for an entity, with their destinations. -/
def copies (srcRepo dstRepo : Repository) (sigOnly : Bool) (se : EntityTree) :
    List (Reference × Reference) :=
  if sigOnly then [tagCopy srcRepo dstRepo se.digest .signature]
  else [.signature, .attestation, .sbom].map (tagCopy srcRepo dstRepo se.digest) ++
    [entityCopy srcRepo dstRepo se.digest]

theorem mem_copies {srcRepo dstRepo : Repository} {sigOnly : Bool} {se : EntityTree}
    {pair : Reference × Reference} (member : pair ∈ copies srcRepo dstRepo sigOnly se) :
    (∃ tm, pair = tagCopy srcRepo dstRepo se.digest tm) ∨
      pair = entityCopy srcRepo dstRepo se.digest := by
  cases sigOnly with
  | true => exact .inl ⟨.signature, List.mem_singleton.mp member⟩
  | false =>
    cases List.mem_append.mp member with
    | inl tagged =>
      obtain ⟨tm, _, same⟩ := List.mem_map.mp tagged
      exact .inl ⟨tm, same.symm⟩
    | inr entity => exact .inr (List.mem_singleton.mp entity)

/-- The names that an entity has by its digest. -/
def derivedName (digest : Digest) (ending : String) : String :=
  "sha256-" ++ digest.hash.hex ++ ending

/-- How the names of signatures, attestations and SBOMs end. -/
def endings : List String := [".sig", ".att", ".sbom"]

/-- How the name of a derived tag ends. -/
def ending : TagMap → String
  | .signature => ".sig"
  | .attestation => ".att"
  | .sbom => ".sbom"

theorem mem_endings {text : String} : text ∈ endings ↔ ∃ tm, ending tm = text := by
  constructor
  · intro member
    simp only [endings, List.mem_cons, List.not_mem_nil, or_false] at member
    rcases member with is | is | is
    · exact ⟨.signature, is.symm⟩
    · exact ⟨.attestation, is.symm⟩
    · exact ⟨.sbom, is.symm⟩
  · rintro ⟨tm, rfl⟩
    cases tm <;> decide

theorem tag_eq (tm : TagMap) (repository : Repository) (digest : Digest) :
    tm.tag repository digest = ⟨repository, derivedName digest (ending tm)⟩ := by
  have sha256 := digest.sha256
  cases tm <;>
    simp [TagMap.tag, signatureTag, attestationTag, sbomTag, makeOptions, Options.suffixTag,
      Remote.normalize, sha256, derivedName, ending, String.append_assoc]

theorem copyEntity_eq (srcRepo dstRepo : Repository) (sigOnly force : Bool) (se : EntityTree) :
    copyEntity s srcRepo dstRepo sigOnly force se =
      (copies srcRepo dstRepo sigOnly se).forM fun pair => copyImage s pair.1 pair.2 force := by
  cases sigOnly with
  | true =>
    simp only [copyEntity, copies, copyTagImage, tagCopy, List.forM_eq_forM, List.forM_cons,
      List.forM_nil, if_true]
  | false =>
    simp only [copyEntity, copies, copyTagImage, tagCopy, entityCopy, List.forM_eq_forM,
      List.map_cons, List.map_nil, List.cons_append, List.nil_append, List.forM_cons,
      List.forM_nil, Bool.false_eq_true, if_false, bind_pure_unit]

/-- The name of a signature, attestation or SBOM tag of something in the source: `sha256-`, the hex
digits of its digest, and `.sig`, `.att` or `.sbom`. -/
def DerivedTag (srcRef : Reference) (identifier : String) : Prop :=
  ∃ root, s.source.get srcRef.address = some root ∧ ∃ part ∈ root.parts, ∃ text ∈ endings,
    identifier = derivedName part.digest text

/-- What may be written before the last call: digests under their own text, and under the name of a
derived tag what the source has under it. -/
def TreeWrites (srcRef dstRef : Reference) (address : Tag) (digest : Digest) : Prop :=
  address.repository = dstRef.context ∧ (address.identifier = digest.hash.string ∨
    DerivedTag s srcRef address.identifier ∧
      ∃ tree, s.source.get ⟨srcRef.context, address.identifier⟩ = some tree ∧ tree.digest = digest)

variable {s} {srcRef dstRef : Reference}

theorem TreeWrites.unique {address : Tag} {left right : Digest}
    (first : TreeWrites s srcRef dstRef address left)
    (second : TreeWrites s srcRef dstRef address right) : left = right := by
  obtain ⟨_, first⟩ := first
  obtain ⟨_, second⟩ := second
  rcases first with named | ⟨_, tree, found, is⟩ <;>
    rcases second with named' | ⟨_, tree', found', is'⟩
  · exact digest_string_injective (named.symm.trans named')
  · rw [named] at found'
    rw [← is', s.source.addressed _ _ _ found']
  · rw [named'] at found
    rw [← is, s.source.addressed _ _ _ found]
  · rw [found] at found'
    cases found'
    exact is.symm.trans is'

theorem TreeWrites.stable {address : Tag} {digest : Digest} {before after : World}
    (writes : TreeWrites s srcRef dstRef address digest)
    (led : Changes (TreeWrites s srcRef dstRef) before after)
    (held : before.manifests.get address = some digest) :
    after.manifests.get address = some digest :=
  led.footprint.stable (fun _ other => other.unique writes) held

section Copies

variable {root part : EntityTree} {sigOnly : Bool} {pair : Reference × Reference}
  (found : s.source.get srcRef.address = some root) (inside : part ∈ root.parts)
  (member : pair ∈ copies srcRef.context dstRef.context sigOnly part)

include found inside member

/-- What the source has for a copy is what may be written to its destination. -/
theorem treeWrites_of_found {tree : EntityTree}
    (there : s.source.get pair.1.address = some tree) :
    TreeWrites s srcRef dstRef pair.2.address tree.digest := by
  cases mem_copies member with
  | inl tagged =>
    obtain ⟨tm, same⟩ := tagged
    subst same
    have there : s.source.get (tm.tag srcRef.context part.digest) = some tree := there
    rw [tag_eq] at there
    have derived : (tagCopy srcRef.context dstRef.context part.digest tm).2.address =
        ⟨dstRef.context, derivedName part.digest (ending tm)⟩ := by
      rw [tagCopy, tag_eq]
      rfl
    rw [derived]
    exact ⟨rfl, .inr ⟨⟨root, found, part, inside, _, mem_endings.mpr ⟨tm, rfl⟩, rfl⟩, tree, there,
      rfl⟩⟩
  | inr entity =>
    subst entity
    have named := s.source.addressed _ _ _ there
    exact ⟨rfl, .inl (by rw [named]; rfl)⟩

theorem treeWrites_of_copy (address : Tag) (digest : Digest)
    (writes : CopyWrites s pair.1 pair.2 address digest) :
    TreeWrites s srcRef dstRef address digest := by
  cases writes with
  | inr target =>
    obtain ⟨place, tree, there, is⟩ := target
    rw [place, ← is]
    exact treeWrites_of_found found inside member there
  | inl named =>
    rw [named]
    cases mem_copies member with
    | inl tagged =>
      obtain ⟨tm, same⟩ := tagged
      subst same
      exact ⟨rfl, .inl rfl⟩
    | inr entity =>
      subst entity
      exact ⟨rfl, .inl rfl⟩

end Copies

/-- The destination has what the source has for every copy of an entity. -/
def Mirrored (s : Session) (srcRef dstRef : Reference) (sigOnly : Bool) (part : EntityTree)
    (world : World) : Prop :=
  ∀ pair ∈ copies srcRef.context dstRef.context sigOnly part, ∀ tree,
    s.source.get pair.1.address = some tree →
      world.manifests.get pair.2.address = some tree.digest

variable {root : EntityTree} {sigOnly force : Bool}

theorem copyEntity_within (found : s.source.get srcRef.address = some root) :
    ∀ part ∈ root.parts, Within (Changes (TreeWrites s srcRef dstRef))
      (copyEntity s srcRef.context dstRef.context sigOnly force part) := by
  intro part inside
  rw [copyEntity_eq]
  refine within_forM fun pair member world => ?_
  exact (copyImage_run s pair.1 pair.2 force world).changes.mono
    (treeWrites_of_copy found inside member)

/-- What the source has for the copies of an entity stays at the destination. -/
theorem Mirrored.stable (found : s.source.get srcRef.address = some root) {part : EntityTree}
    (inside : part ∈ root.parts) {before after : World}
    (led : Changes (TreeWrites s srcRef dstRef) before after)
    (held : Mirrored s srcRef dstRef sigOnly part before) :
    Mirrored s srcRef dstRef sigOnly part after :=
  fun pair member tree there =>
    (treeWrites_of_found found inside member there).stable led (held pair member tree there)

theorem copyEntity_ensures (found : s.source.get srcRef.address = some root)
    (unchanging : ∀ call err, (s.responses call).get ≠ some (.transport statusNotFound err)) :
    ∀ part ∈ root.parts, Ensures (fun _ => True)
      (copyEntity s srcRef.context dstRef.context sigOnly force part)
      fun _ => Mirrored s srcRef dstRef sigOnly part := by
  intro part inside
  rw [copyEntity_eq]
  refine ensures_forM (fun pair member before after
    (led : Changes (TreeWrites s srcRef dstRef) before after) held tree there => ?_)
    (fun pair member => ⟨fun world => ?_, fun world _ value final ran tree there => ?_⟩)
  · exact (treeWrites_of_found found inside member there).stable led (held tree there)
  · exact (copyImage_run s pair.1 pair.2 force world).changes.mono
      (treeWrites_of_copy found inside member)
  · have run := copyImage_run s pair.1 pair.2 force world
    rw [ran] at run
    exact run.copied unchanging rfl there

theorem sourceEntity_within {allowed : Tag → Digest → Prop} :
    Within (Changes allowed) (sourceEntity s srcRef) := by
  refine within_bind (fun world => ?_) fun answer => ?_
  · rw [remoteGet_run]
    exact ⟨.refl, List.suffix_rfl⟩
  · split
    · exact within_fail _
    · exact within_fail _
    · exact within_fail _
    · exact within_bind (readManifest_within s) fun _ => within_done _

theorem sourceEntity_ensures :
    Ensures (fun _ => True) (sourceEntity s srcRef) fun tree _ =>
      s.source.get srcRef.address = some tree := by
  intro world _ value final ran
  obtain ⟨answer, after, got, ran⟩ := bind_eq_ok.mp ran
  rw [remoteGet_run] at got
  obtain ⟨answered, _⟩ := Prod.mk.inj got
  cases answer with
  | error callErr => cases callErr <;> cases ran
  | ok tree =>
    have found := getAnswer_ok s (Except.ok.inj answered)
    cases tree with
    | other digest mediaType => cases ran
    | image digest | index digest manifests =>
      obtain ⟨_, _, _, returned⟩ := bind_eq_ok.mp ran
      cases returned
      exact found

/-- Everything before the last call stays within what may be written. -/
theorem copyTree_within : Within (Changes (TreeWrites s srcRef dstRef))
    (copyTree s srcRef dstRef sigOnly force) := by
  refine within_bind_returns sourceEntity_within sourceEntity_ensures fun root found => ?_
  refine within_bind ?_ fun _ => within_done _
  exact walkEntity_within (readManifest_within s) (copyEntity_within found)

/-- Everything before the last call has copied what belongs to the entities of the source. -/
theorem copyTree_ensures
    (unchanging : ∀ call err, (s.responses call).get ≠ some (.transport statusNotFound err)) :
    Ensures (fun _ => True) (copyTree s srcRef dstRef sigOnly force) fun root world =>
      s.source.get srcRef.address = some root ∧
        ∀ part ∈ root.parts, Mirrored s srcRef dstRef sigOnly part world := by
  refine ensures_bind sourceEntity_ensures fun root => ?_
  intro world found value final ran
  obtain ⟨_, walked, walk, returned⟩ := bind_eq_ok.mp ran
  cases returned
  refine ⟨found, ?_⟩
  refine walkEntity_ensures (fun part inside before after led held => held.stable found inside led)
    (readManifest_within s) (fun part inside => ?_) world trivial _ _ walk
  exact ⟨copyEntity_within found part inside, copyEntity_ensures found unchanging part inside⟩

/-- The last call keeps what has been copied, if its destination is not a derived tag. -/
theorem Mirrored.last (found : s.source.get srcRef.address = some root) {part : EntityTree}
    (inside : part ∈ root.parts) (apart : ¬ DerivedTag s srcRef dstRef.identifier)
    {src : Reference} {world after : World} (led : Changes (CopyWrites s src dstRef) world after)
    (held : Mirrored s srcRef dstRef sigOnly part world) :
    Mirrored s srcRef dstRef sigOnly part after := by
  intro pair member tree there
  have writes : TreeWrites s srcRef dstRef pair.2.address tree.digest :=
    treeWrites_of_found found inside member there
  have before := held pair member tree there
  cases led.footprint pair.2.address with
  | inl same => rw [same, before]
  | inr written =>
    obtain ⟨digest, place, now⟩ := written
    rw [now, Option.some_inj]
    cases place with
    | inl named =>
      refine TreeWrites.unique ?_ writes
      rw [named]
      exact ⟨rfl, .inl rfl⟩
    | inr target =>
      cases mem_copies member with
      | inl tagged =>
        obtain ⟨tm, same⟩ := tagged
        subst same
        have name : (tm.tag srcRef.context part.digest).identifier = dstRef.identifier :=
          congrArg Tag.identifier target.1
        rw [tag_eq] at name
        exact absurd ⟨root, found, part, inside, _, mem_endings.mpr ⟨tm, rfl⟩, name.symm⟩ apart
      | inr entity =>
        subst entity
        rw [s.source.addressed _ _ _ there]
        exact after.manifests.addressed _ _ _ now

theorem copyCmd_parsed {srcImg dstImg : String} (parsedSrc : s.parseReference srcImg = .ok srcRef)
    (parsedDst : s.parseReference dstImg = .ok dstRef) (sigOnly force : Bool) (world : World) :
    copyCmd s srcImg dstImg sigOnly force world =
      (copyTree s srcRef dstRef sigOnly force >>= fun root =>
        if sigOnly then pure ()
        else copyImage s (.digest srcRef.context root.digest) dstRef force) world := by
  unfold copyCmd
  rw [parsedSrc, parsedDst]
  rfl

/-- **A copy is complete, and its tag is moved last.** The source answers 404 only for what it does
not have, and the destination is no derived tag of the source. If `CopyCmd` returns, the destination
has the root under its reference, every entity of the source under its digest, and whatever the
source has under `sha256-<hex>.sig`, `.att` and `.sbom` of an entity. If a reference does not parse,
nothing is done; if anything before the last call fails, `CopyCmd` fails and the destination tag is
as it was. -/
theorem copy_complete
    (unchanging : ∀ call err, (s.responses call).get ≠ some (.transport statusNotFound err))
    (srcImg dstImg : String) (force : Bool) (world : World) :
    (∀ sigOnly err, s.parseReference srcImg = .error err ∨
        (∃ srcRef, s.parseReference srcImg = .ok srcRef) ∧ s.parseReference dstImg = .error err →
      copyCmd s srcImg dstImg sigOnly force world = (.error err, world)) ∧
    ∀ srcRef dstRef, s.parseReference srcImg = .ok srcRef → s.parseReference dstImg = .ok dstRef →
      ¬ DerivedTag s srcRef dstRef.identifier →
      (∀ final, copyCmd s srcImg dstImg false force world = (.ok (), final) →
        ∃ root, s.source.get srcRef.address = some root ∧
          final.manifests.get dstRef.address = some root.digest ∧
          ∀ part ∈ root.parts,
            final.manifests.get ⟨dstRef.context, part.digest.hash.string⟩ = some part.digest ∧
            ∀ text ∈ [".sig", ".att", ".sbom"], ∀ tree,
              s.source.get ⟨srcRef.context, "sha256-" ++ part.digest.hash.hex ++ text⟩ =
                some tree →
              final.manifests.get ⟨dstRef.context, "sha256-" ++ part.digest.hash.hex ++ text⟩ =
                some tree.digest) ∧
      ∀ sigOnly err tag, dstRef = .tag tag →
        (copyTree s srcRef dstRef sigOnly force world).1 = .error err →
        (copyCmd s srcImg dstImg sigOnly force world).1 = .error err ∧
          (copyCmd s srcImg dstImg sigOnly force world).2.manifests.get tag =
            world.manifests.get tag := by
  constructor
  · intro sigOnly err failed
    unfold copyCmd
    rcases failed with failed | ⟨⟨srcRef, parsedSrc⟩, failed⟩
    · rw [failed]
      rfl
    · rw [parsedSrc, failed]
      rfl
  intro srcRef dstRef parsedSrc parsedDst apart
  constructor
  · intro final ran
    rw [copyCmd_parsed parsedSrc parsedDst] at ran
    obtain ⟨root, copied, before, last⟩ := bind_eq_ok.mp ran
    obtain ⟨found, mirrored⟩ := copyTree_ensures unchanging world trivial root copied before
    have run := copyImage_run s (.digest srcRef.context root.digest) dstRef force copied
    rw [show copyImage s _ dstRef force copied = (.ok (), final) from last] at run
    have rooted := s.source.complete _ _ found root List.mem_cons_self
    refine ⟨root, found, run.copied unchanging rfl rooted, fun part inside => ?_⟩
    have kept := (mirrored part inside).last found inside apart run.changes
    have there := s.source.complete _ _ found part (List.mem_cons_of_mem _ inside)
    refine ⟨kept (entityCopy ..) (List.mem_append_right _ (List.mem_singleton.mpr rfl)) part there,
      fun text known tree tagged => ?_⟩
    have ⟨tm, is⟩ := mem_endings.mp known
    subst is
    have copied := kept (tagCopy srcRef.context dstRef.context part.digest tm)
      (List.mem_append_left _ (List.mem_map_of_mem (by cases tm <;> decide))) tree
    rw [tagCopy, tag_eq] at copied
    exact copied tagged
  · intro sigOnly err tag isTag failed
    rw [copyCmd_parsed parsedSrc parsedDst, Proc.bind_of_error failed]
    refine ⟨rfl, (copyTree_within world).footprint.unchanged fun digest writes => ?_⟩
    obtain ⟨_, named | derived⟩ := writes
    · subst isTag
      have colon := s.tagged dstImg tag parsedDst
      rw [named] at colon
      exact colon (colon_mem_digest digest)
    · subst isTag
      exact apart derived.1

end Tree

section Sample

/-- A digest whose hex digits are all the same. -/
def uniformDigest (digit : Char) : Digest :=
  ⟨⟨"sha256", String.ofList (List.replicate 64 digit)⟩, rfl, by simp⟩

/-- A repository, by its path. -/
def repositoryAt (path : String) : Repository := ⟨"registry.example", false, path⟩

/-- A signed image. -/
def copiedImage : EntityTree := .image (uniformDigest 'a')

/-- An index with the image. -/
def copiedIndex : EntityTree := .index (uniformDigest 'b') [copiedImage]

/-- The signatures of the image. -/
def copiedSignatures : EntityTree := .image (uniformDigest 'c')

/-- The name of the signature tag of the image. -/
def sampleSignatureTag : String := derivedName (uniformDigest 'a') ".sig"

/-- What a source has under a name. -/
def sampleFound (name : String) : Option EntityTree :=
  if name = "v1" ∨ name = (uniformDigest 'b').hash.string then some copiedIndex
  else if name = (uniformDigest 'a').hash.string then some copiedImage
  else if name = sampleSignatureTag ∨ name = (uniformDigest 'c').hash.string then
    some copiedSignatures
  else none

theorem sampleFound_digest {tree : EntityTree}
    (sample : tree = copiedIndex ∨ tree = copiedImage ∨ tree = copiedSignatures) :
    sampleFound tree.digest.hash.string = some tree := by
  rcases sample with same | same | same <;> subst same <;> unfold sampleFound
  · rw [if_pos (by decide +kernel)]
  · rw [if_neg (by decide +kernel), if_pos (by decide +kernel)]
  · rw [if_neg (by decide +kernel), if_neg (by decide +kernel), if_pos (by decide +kernel)]

theorem sampleFound_cases {name : String} {tree : EntityTree}
    (found : sampleFound name = some tree) :
    tree = copiedIndex ∨ tree = copiedImage ∨ tree = copiedSignatures := by
  unfold sampleFound at found
  split at found
  · exact .inl (Option.some.inj found).symm
  · split at found
    · exact .inr (.inl (Option.some.inj found).symm)
    · split at found
      · exact .inr (.inr (Option.some.inj found).symm)
      · cases found

theorem digest_ne_plain (digest : Digest) {name : String} (plain : ':' ∉ name.toList) :
    digest.hash.string ≠ name :=
  fun same => plain (same ▸ colon_mem_digest digest)

/-- A source with the index under a tag. -/
def sampleSource : Source where
  get address := sampleFound address.identifier
  addressed repository digest tree found := by
    unfold sampleFound at found
    simp only [digest_ne_plain digest (show ':' ∉ "v1".toList by decide +kernel),
      digest_ne_plain digest (show ':' ∉ sampleSignatureTag.toList by decide +kernel),
      false_or] at found
    split at found
    · next same =>
      cases found
      exact (digest_string_injective same).symm
    · split at found
      · next same =>
        cases found
        exact (digest_string_injective same).symm
      · split at found
        · next same =>
          cases found
          exact (digest_string_injective same).symm
        · cases found
  complete address tree found part member := by
    apply sampleFound_digest
    rcases sampleFound_cases found with same | same | same <;> subst same
    · have listed : copiedIndex.parts = [copiedIndex, copiedImage] := by
        simp [copiedIndex, copiedImage, EntityTree.parts, EntityTree.partsOf]
      rw [listed] at member
      simp only [List.mem_cons, List.not_mem_nil, or_false] at member
      exact member.elim .inl (Or.imp_right .inl)
    · have listed : copiedImage.parts = [copiedImage] := by simp [copiedImage, EntityTree.parts]
      rw [listed] at member
      simp only [List.mem_cons, List.not_mem_nil, or_false, or_self] at member
      exact .inr (.inl member)
    · have listed : copiedSignatures.parts = [copiedSignatures] := by
        simp [copiedSignatures, EntityTree.parts]
      rw [listed] at member
      simp only [List.mem_cons, List.not_mem_nil, or_false, or_self] at member
      exact .inr (.inr member)

/-- `name.ParseReference` for a source and a destination. -/
def sampleParse (text : String) : Except GoError Reference :=
  if text = "src" ∨ text = "dst" then .ok (.tag ⟨repositoryAt text, "v1"⟩)
  else .error ⟨"could not parse reference"⟩

/-- A run in which calls fail in some way. -/
def sampleSession (responses : Nat → Responses) : Session where
  parseReference := sampleParse
  tagged text tag parsed := by
    unfold sampleParse at parsed
    split at parsed
    · cases parsed
      show ':' ∉ "v1".toList
      decide +kernel
    · cases parsed
  source := sampleSource
  responses := responses

/-- An empty destination. -/
def emptyManifests : Manifests where
  get _ := none
  addressed _ _ _ holds := by cases holds

/-- A destination where the tag has something else. -/
def otherManifests : Manifests :=
  emptyManifests.put ⟨repositoryAt "dst", "v1"⟩ (uniformDigest 'd') (by decide +kernel)

theorem sample_apart (responses : Nat → Responses) (srcRef : Reference) :
    ¬ DerivedTag (sampleSession responses) srcRef "v1" := by
  intro ⟨root, _, part, _, text, _, same⟩
  have texts := congrArg String.toList same
  simp [derivedName] at texts

theorem sample_parsed (responses : Nat → Responses) {text : String}
    (known : text = "src" ∨ text = "dst") :
    (sampleSession responses).parseReference text = .ok (.tag ⟨repositoryAt text, "v1"⟩) :=
  if_pos known

theorem sample_copies : (copyCmd (sampleSession fun _ => {}) "src" "dst" false false
    (World.start emptyManifests)).1 = .ok () := by
  decide +kernel

/-- A run in which no manifest can be read. -/
def unreadable : Session := sampleSession fun _ => { read := some ⟨"connection reset by peer"⟩ }

theorem unreadable_fails : (copyTree unreadable (.tag ⟨repositoryAt "src", "v1"⟩)
    (.tag ⟨repositoryAt "dst", "v1"⟩) false true (World.start otherManifests)).1 =
      .error ⟨"connection reset by peer"⟩ :=
  rfl

/-- A copy of the index into an empty repository has its signed image, and the signatures under
the tag of the image. A copy that cannot read the source fails and leaves the tag, and so does one
to a reference that does not parse. -/
theorem copy_complete_index :
    (∃ final,
      copyCmd (sampleSession fun _ => {}) "src" "dst" false false (World.start emptyManifests) =
        (.ok (), final) ∧
      final.manifests.get ⟨repositoryAt "dst", "v1"⟩ = some (uniformDigest 'b') ∧
      final.manifests.get ⟨repositoryAt "dst", (uniformDigest 'a').hash.string⟩ =
        some (uniformDigest 'a') ∧
      final.manifests.get ⟨repositoryAt "dst",
        "sha256-" ++ (uniformDigest 'a').hash.hex ++ ".sig"⟩ = some (uniformDigest 'c')) ∧
    ((copyCmd unreadable "src" "dst" false true (World.start otherManifests)).1 =
        .error ⟨"connection reset by peer"⟩ ∧
      (copyCmd unreadable "src" "dst" false true
        (World.start otherManifests)).2.manifests.get ⟨repositoryAt "dst", "v1"⟩ =
          some (uniformDigest 'd')) ∧
    copyCmd (sampleSession fun _ => {}) "src" "DST" false true (World.start otherManifests) =
      (.error ⟨"could not parse reference"⟩, World.start otherManifests) := by
  refine ⟨?_, ?_, ?_⟩
  · obtain ⟨final, ran⟩ := exists_eq_ok sample_copies
    have complete := copy_complete (s := sampleSession fun _ => {}) (fun _ _ same => by cases same)
      "src" "dst" false (World.start emptyManifests)
    obtain ⟨root, found, rooted, mirrored⟩ := (complete.2 _ _ (sample_parsed _ (.inl rfl))
      (sample_parsed _ (.inr rfl)) (sample_apart _ _)).1 final ran
    have index : sampleFound "v1" = some copiedIndex := if_pos (.inl rfl)
    cases index.symm.trans found
    have listed : copiedImage ∈ copiedIndex.parts := by
      simp [copiedIndex, copiedImage, EntityTree.parts, EntityTree.partsOf]
    have ⟨image, signatures⟩ := mirrored copiedImage listed
    refine ⟨final, ran, rooted, image, signatures ".sig" (by decide) copiedSignatures ?_⟩
    show sampleFound sampleSignatureTag = some copiedSignatures
    unfold sampleFound
    rw [if_neg (by decide +kernel), if_neg (by decide +kernel), if_pos (.inl rfl)]
  · have complete := copy_complete (s := unreadable) (fun _ _ same => by cases same)
      "src" "dst" true (World.start otherManifests)
    have ⟨failed, kept⟩ := (complete.2 _ _ (sample_parsed _ (.inl rfl))
      (sample_parsed _ (.inr rfl)) (sample_apart _ _)).2 false _ _ rfl unreadable_fails
    have held : otherManifests.get ⟨repositoryAt "dst", "v1"⟩ = some (uniformDigest 'd') := by
      simp only [otherManifests, Manifests.put, Function.update_self]
    exact ⟨failed, kept.trans held⟩
  · have complete := copy_complete (s := sampleSession fun _ => {}) (fun _ _ same => by cases same)
      "src" "DST" true (World.start otherManifests)
    exact complete.1 false _ (.inr ⟨⟨_, sample_parsed _ (.inl rfl)⟩, rfl⟩)

end Sample

section Force

variable (s : Session)

theorem copyCmd_guarded (srcImg dstImg : String) (sigOnly : Bool) :
    Within Guarded (copyCmd s srcImg dstImg sigOnly false) := by
  have copied (src dest : Reference) : Within Guarded (copyImage s src dest false) :=
    fun world => (copyImage_run s src dest false world).guarded
  have reads : Within Guarded (readManifest s) := fun world => (readManifest_within s world).guarded
  have tree (srcRef dstRef : Reference) :
      Within Guarded (copyTree s srcRef dstRef sigOnly false) := by
    refine within_bind (fun world => (sourceEntity_within world).guarded) fun root => ?_
    refine within_bind (walkEntity_within reads fun part _ => ?_) fun _ => within_done _
    rw [copyEntity_eq]
    exact within_forM fun pair _ => copied pair.1 pair.2
  refine within_bind (within_ofExcept _) fun srcRef => ?_
  refine within_bind (within_ofExcept _) fun dstRef => ?_
  refine within_bind (tree srcRef dstRef) fun root => ?_
  cases sigOnly with
  | true => exact within_done _
  | false => exact copied _ _

/-- **Copying without force, over a whole run.** A destination that had something and has something
else after the run was missed in it: a HEAD request failed for it, which every call takes for
absence. -/
theorem copy_overwrites_only_missed (srcImg dstImg : String) (sigOnly : Bool)
    (manifests : Manifests) :
    (∀ address digest, manifests.get address = some digest →
      (copyCmd s srcImg dstImg sigOnly false (World.start manifests)).2.manifests.get address ≠
        some digest →
      address ∈ (copyCmd s srcImg dstImg sigOnly false (World.start manifests)).2.missed) ∧
    ∀ src dest world digest, world.manifests.get dest.address = some digest →
      ((copyImage s src dest false world).2.manifests.get dest.address ≠ some digest ↔
        ∃ got, getAnswer s src world.calls = .ok got ∧ digest ≠ got.digest ∧
          (s.responses (world.calls + 1)).head.isSome ∧
            Moves s dest got (world.calls + 2)) := by
  refine ⟨fun address digest holds changed => ?_, fun src dest world digest held => ?_⟩
  · have kept := (copyCmd_guarded s srcImg dstImg sigOnly (World.start manifests)).kept
    exact (kept address digest holds).resolve_left changed
  · exact copyImage_overwrites_iff s held

end Force

/-- A tag without force is moved away from what it had: every HEAD request is answered with an
error of the server. -/
theorem failed_head_overwrites :
    (otherManifests.get ⟨repositoryAt "dst", "v1"⟩).map Digest.hash =
      some (uniformDigest 'd').hash ∧
    (copyCmd (sampleSession fun _ => { head := some (.transport 500 ⟨"INTERNAL_ERROR"⟩) })
      "src" "dst" false false (World.start otherManifests)).1 = .ok () ∧
    ((copyCmd (sampleSession fun _ => { head := some (.transport 500 ⟨"INTERNAL_ERROR"⟩) })
      "src" "dst" false false (World.start otherManifests)).2.manifests.get
        ⟨repositoryAt "dst", "v1"⟩).map Digest.hash ≠ some (uniformDigest 'd').hash := by
  decide +kernel

end Cosign.Verif
