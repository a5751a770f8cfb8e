import Cosign.Verif.Attach
import Cosign.Verif.Sample

/-!
# Attaching with the duplicate detector

What `dd.Find` looks for (`Detected`), what the search can return (`find_searches`), and when an
attach with the detector does what it is for: it adds nothing where the list has an entry of the
same content that verifies, and appends the new entry otherwise (`deduplicates_iff`). A signature is
detected by its own copy; an attestation, which keeps its signature inside the payload, by no entry
at all.
-/
namespace Cosign.Verif

open Cosign.Go Cosign.Encoding Cosign.Oci Cosign.Remote Cosign.Verify

variable {p : Platform} {verifier : Verifier} {role : Role} {new entry : OciSignature}
  {existing sl : List OciSignature} {value : Oci.Signatures} {digest : Hash} {mediaType : String}
  {ann : GoMap String} {se : Oci.SignedEntity}

/-! ## What the detector looks for -/

/-- Two elements have the same digest and the same media type. -/
structure SameBlob (new entry : OciSignature) : Prop where
  digest : ∃ digest, new.layer.digest = .ok digest ∧ entry.layer.digest = .ok digest
  mediaType : ∃ mediaType, new.layer.mediaType = .ok mediaType ∧
    entry.layer.mediaType = .ok mediaType

/-- An entry that the detector compares with a new element: it is the same blob, it has all
annotations of the new element apart from the signature, and its own signature is not empty and can
be decoded. -/
structure Candidate (new entry : OciSignature) (uploadedSig : Bytes) : Prop where
  blob : SameBlob new entry
  /-- All annotations of the new element. -/
  annotations : ∃ ann kept, new.annotations = .ok ann ∧ entry.annotations = .ok kept ∧
    ∀ key text, ann.lookup key = some text →
      key = signatureAnnotationKey ∨ kept.lookup key = some text
  signature : ∃ text, entry.base64Signature = .ok text ∧ text ≠ "" ∧
    Base64.stdDecode text = some uploadedSig

/-- An entry that makes a new element redundant for the detector: its signature verifies over the
content of the new element. -/
def Detected (verifier : Verifier) (new entry : OciSignature) : Prop :=
  ∃ uploadedSig message, Candidate new entry uploadedSig ∧
    new.layer.uncompressed = .ok message ∧ verifier.verifySignature uploadedSig message = none

/-- An entry at which the search fails, since the content of the new element cannot be read. -/
def Unreadable (new entry : OciSignature) : Prop :=
  ∃ uploadedSig err, Candidate new entry uploadedSig ∧ new.layer.uncompressed = .error err

/-- An entry that is not compared is neither detected nor fails the search. -/
theorem passed_over (unlike : ∀ uploadedSig, ¬Candidate new entry uploadedSig) :
    ¬Detected verifier new entry ∧ ¬Unreadable new entry := by
  constructor
  · rintro ⟨uploadedSig, message, candidate, -⟩
    exact unlike uploadedSig candidate
  · rintro ⟨uploadedSig, err, candidate, -⟩
    exact unlike uploadedSig candidate

theorem passed_over_unsigned (unsigned : entry.base64Signature = .ok "") :
    ¬Detected verifier new entry ∧ ¬Unreadable new entry := by
  apply passed_over
  intro uploadedSig candidate
  obtain ⟨text, textIs, nonempty, -⟩ := candidate.signature
  rw [unsigned] at textIs
  exact nonempty (Except.ok.inj textIs).symm

theorem annotationsKept_iff {ann kept : GoMap String} : annotationsKept ann kept = true ↔
    ∀ key text, ann.lookup key = some text →
      key = signatureAnnotationKey ∨ kept.lookup key = some text := by
  unfold annotationsKept
  rw [List.all_eq_true]
  constructor
  · intro all key text found
    have holds := all ⟨key, text⟩ (AList.mem_lookup_iff.mp found)
    simpa using holds
  · intro all pair inside
    have holds := all pair.1 pair.2 (AList.mem_lookup_iff.mpr inside)
    simpa using holds

/-- The result of one round. -/
inductive Finding (verifier : Verifier) (new entry : OciSignature) :
    Except GoError Bool → Prop where
  /-- The entry makes the new element redundant. -/
  | duplicate (detected : Detected verifier new entry) : Finding verifier new entry (.ok true)
  /-- The content of the new element cannot be read. -/
  | unreadable (err : GoError) (unreadable : Unreadable new entry) :
    Finding verifier new entry (.error err)
  /-- The search goes on. -/
  | other (undetected : ¬Detected verifier new entry) (readable : ¬Unreadable new entry) :
    Finding verifier new entry (.ok false)

theorem Finding.of_not_candidate (unlike : ∀ uploadedSig, ¬Candidate new entry uploadedSig) :
    Finding verifier new entry (.ok false) := by
  have passed : ¬Detected verifier new entry ∧ ¬Unreadable new entry := passed_over unlike
  exact .other passed.1 passed.2

/-- What the detector reads of a new element. -/
structure Described (new : OciSignature) (digest : Hash) (mediaType : String)
    (ann : GoMap String) : Prop where
  digest : new.layer.digest = .ok digest
  mediaType : new.layer.mediaType = .ok mediaType
  annotations : new.annotations = .ok ann

theorem candidate_iff {digest other : Hash} {mediaType otherType text : String}
    {ann kept : GoMap String} {uploadedSig : Bytes} (described : Described new digest mediaType ann)
    (read : Described entry other otherType kept) (signed : entry.base64Signature = .ok text) :
    Candidate new entry uploadedSig ↔
      (annotationsKept ann kept = true ∧ other = digest ∧ otherType = mediaType ∧ text ≠ "") ∧
        Base64.stdDecode text = some uploadedSig := by
  rw [annotationsKept_iff]
  constructor
  · intro candidate
    obtain ⟨⟨⟨digest', newDigest, entryDigest⟩, ⟨type', newType, entryType⟩⟩,
      ⟨ann', kept', newAnn, entryAnn, keeps⟩, ⟨text', entryText, nonempty, decodes⟩⟩ := candidate
    rw [described.digest] at newDigest
    rw [described.mediaType] at newType
    rw [described.annotations] at newAnn
    rw [read.digest] at entryDigest
    rw [read.mediaType] at entryType
    rw [read.annotations] at entryAnn
    rw [signed] at entryText
    cases newDigest
    cases newType
    cases newAnn
    cases entryDigest
    cases entryType
    cases entryAnn
    cases entryText
    exact ⟨⟨keeps, rfl, rfl, nonempty⟩, decodes⟩
  · rintro ⟨⟨keeps, sameDigest, sameType, nonempty⟩, decodes⟩
    rw [sameDigest, sameType] at read
    exact ⟨⟨⟨digest, described.digest, read.digest⟩, ⟨mediaType, described.mediaType,
      read.mediaType⟩⟩, ⟨ann, kept, described.annotations, read.annotations, keeps⟩,
      ⟨text, signed, nonempty, decodes⟩⟩

/-- **One round of the search**: it finds a detected entry, fails on the content of the new element,
or goes on. -/
theorem isDuplicate_finds (described : Described new digest mediaType ann) (entry : OciSignature) :
    Finding verifier new entry
      (isDuplicate verifier digest mediaType ann new.layer.uncompressed entry) := by
  unfold isDuplicate
  split
  · rename_i kept other otherType text annIs digestIs typeIs signed
    have candidate : ∀ uploadedSig, Candidate new entry uploadedSig ↔ _ :=
      fun uploadedSig => candidate_iff described ⟨digestIs, typeIs, annIs⟩ signed
    split
    · rename_i compared
      split
      · rename_i undecoded
        apply Finding.of_not_candidate
        intro uploadedSig isCandidate
        rw [((candidate uploadedSig).mp isCandidate).2] at undecoded
        cases undecoded
      · rename_i uploadedSig decoded
        have isCandidate := (candidate uploadedSig).mpr ⟨compared, decoded⟩
        split
        · rename_i err failed
          exact .unreadable err ⟨uploadedSig, err, isCandidate, failed⟩
        · rename_i message readIs
          have readable : ¬Unreadable new entry := by
            rintro ⟨_, err, -, failed⟩
            rw [readIs] at failed
            cases failed
          cases verdict : verifier.verifySignature uploadedSig message with
          | none => exact .duplicate ⟨uploadedSig, message, isCandidate, readIs, verdict⟩
          | some err =>
            refine .other ?_ readable
            rintro ⟨uploadedSig', message', isCandidate', readIs', verified⟩
            have same := ((candidate uploadedSig').mp isCandidate').2
            rw [decoded] at same
            rw [readIs] at readIs'
            rw [← Option.some.inj same, ← Except.ok.inj readIs', verdict] at verified
            cases verified
    · rename_i different
      apply Finding.of_not_candidate
      intro uploadedSig isCandidate
      exact different ((candidate uploadedSig).mp isCandidate).1
  · rename_i unread
    apply Finding.of_not_candidate
    intro uploadedSig isCandidate
    obtain ⟨⟨⟨digest', -, entryDigest⟩, ⟨type', -, entryType⟩⟩, ⟨_, kept, -, entryAnn, -⟩,
      ⟨text, entryText, -⟩⟩ := isCandidate
    exact unread kept digest' type' text entryAnn entryDigest entryType entryText

/-- The result of a search. -/
inductive Search (verifier : Verifier) (new : OciSignature) (entries : List OciSignature) :
    Except GoError (Option OciSignature) → Prop where
  /-- Some entry makes the new element redundant. -/
  | found (entry : OciSignature) (detected : ∃ entry ∈ entries, Detected verifier new entry) :
    Search verifier new entries (.ok (some entry))
  /-- No entry does. -/
  | absent (undetected : ∀ entry ∈ entries, ¬Detected verifier new entry)
    (readable : ∀ entry ∈ entries, ¬Unreadable new entry) : Search verifier new entries (.ok none)
  /-- The content of the new element cannot be read. -/
  | failed (err : GoError) (unreadable : ∃ entry ∈ entries, Unreadable new entry) :
    Search verifier new entries (.error err)

theorem layerLoop_searches {duplicate : OciSignature → Except GoError Bool}
    (finds : ∀ entry, Finding verifier new entry (duplicate entry)) (entries : List OciSignature) :
    Search verifier new entries (layerLoop duplicate entries) := by
  induction entries with
  | nil =>
    have nothing : ∀ entry ∈ ([] : List OciSignature), False := by simp
    exact .absent (fun entry inside => (nothing entry inside).elim)
      (fun entry inside => (nothing entry inside).elim)
  | cons first rest ih =>
    have finding := finds first
    unfold layerLoop
    generalize duplicate first = outcome at finding
    cases finding with
    | duplicate detected => exact .found first ⟨first, List.mem_cons_self, detected⟩
    | unreadable err unreadable => exact .failed err ⟨first, List.mem_cons_self, unreadable⟩
    | other undetected readable =>
      show Search verifier new (first :: rest) (layerLoop duplicate rest)
      generalize layerLoop duplicate rest = result at ih
      cases ih with
      | found entry detected =>
        obtain ⟨other, inside, detected⟩ := detected
        exact .found entry ⟨other, List.mem_cons_of_mem _ inside, detected⟩
      | absent undetectedRest readableRest =>
        exact .absent (List.forall_mem_cons.mpr ⟨undetected, undetectedRest⟩)
          (List.forall_mem_cons.mpr ⟨readable, readableRest⟩)
      | failed err unreadable =>
        obtain ⟨other, inside, unreadable⟩ := unreadable
        exact .failed err ⟨other, List.mem_cons_of_mem _ inside, unreadable⟩

/-- **What `Find` returns** for an element that can be read, on a list that can be read. -/
theorem find_searches (described : Described new digest mediaType ann)
    (read : value.get = .ok existing) :
    Search verifier new existing (find verifier value new) := by
  have unfolded : find verifier value new =
      layerLoop (isDuplicate verifier digest mediaType ann new.layer.uncompressed) existing := by
    simp only [find, described.digest, described.mediaType, described.annotations, read, bind,
      Except.bind]
  rw [unfolded]
  exact layerLoop_searches (isDuplicate_finds described) existing

/-- `Find` finds nothing in a list of entries without signatures, such as attestations. -/
theorem find_unsigned (described : Described new digest mediaType ann)
    (read : value.get = .ok existing)
    (unsigned : ∀ entry ∈ existing, entry.base64Signature = .ok "") :
    find verifier value new = .ok none := by
  have search : Search verifier new existing (find verifier value new) :=
    find_searches described read
  generalize find verifier value new = result at search
  cases search with
  | found entry detected =>
    obtain ⟨other, inside, seen⟩ := detected
    exact absurd seen (passed_over_unsigned (unsigned other inside)).1
  | absent => rfl
  | failed err unreadable =>
    obtain ⟨other, inside, unread⟩ := unreadable
    have passed : ¬Detected verifier new other ∧ ¬Unreadable new other :=
      passed_over_unsigned (unsigned other inside)
    exact absurd unread passed.2

theorem described_of_find {result : Option OciSignature}
    (found : find verifier value new = .ok result) :
    ∃ digest mediaType ann, Described new digest mediaType ann := by
  obtain ⟨digest, digestIs, found⟩ := bind_eq_value.mp found
  obtain ⟨mediaType, typeIs, found⟩ := bind_eq_value.mp found
  obtain ⟨ann, annIs, -⟩ := bind_eq_value.mp found
  exact ⟨digest, mediaType, ann, digestIs, typeIs, annIs⟩

/-! ## Attaching with the detector -/

/-- An entity with one more signature or attestation, attached with the detector. -/
def attachDetecting (verifier : Verifier) (role : Role) (se : Oci.SignedEntity)
    (new : OciSignature) : Oci.SignedEntity :=
  match role with
  | .signature =>
    attachSignatureToEntity se new [.withDupeDetector (newDupeDetector verifier)]
  | .attestation =>
    attachAttestationToEntity se new [.withDupeDetector (newDupeDetector verifier)]

theorem list_attachDetecting (se : Oci.SignedEntity) :
    role.list (attachDetecting verifier role se new) =
      attached (role.list se) (some new)
        (makeSignOpts [.withDupeDetector (newDupeDetector verifier)])
        fun value sig => .ok (appendSignatures value [sig]) := by
  cases role with
  | signature => exact list_attach se (some new) none rfl .signature
  | attestation => exact list_attach se none (some new) rfl .attestation

/-- A wrapper whose detector searches lists the entries if one is found, and the entries with the
new element if none is. -/
theorem lists_attached_search {so : SignOpts} (read : value.get = .ok existing)
    (annotated : Annotated new)
    (search : Search verifier new existing (findExisting so value new)) :
    Lists (attached (.ok (.ok value)) (some new) so
        fun value sig => .ok (appendSignatures value [sig])) sl ↔
      (∃ entry ∈ existing, Detected verifier new entry) ∧ sl = existing ∨
        (∀ entry ∈ existing, ¬Detected verifier new entry) ∧
          (∀ entry ∈ existing, ¬Unreadable new entry) ∧ sl = existing ++ [new] := by
  unfold attached
  simp only [bind, Except.bind]
  generalize findExisting so value new = result at search
  cases search with
  | found entry detected =>
    have base : Lists (.ok (.ok value)) sl ↔ sl = existing := by
      simp [Lists, read, eq_comm]
    have present : ¬∀ entry ∈ existing, ¬Detected verifier new entry := by
      intro undetected
      obtain ⟨other, inside, seen⟩ := detected
      exact undetected other inside seen
    rw [and_iff_right detected, or_iff_left fun appended => present appended.1]
    exact base
  | absent undetected readable =>
    have absent : ¬∃ entry ∈ existing, Detected verifier new entry := by
      rintro ⟨entry, inside, seen⟩
      exact undetected entry inside seen
    have longer : Lists (.ok (appendSignatures value [new])) sl ↔ sl = existing ++ [new] := by
      rw [lists_appendSignatures]
      simp [read, annotated]
    rw [or_iff_right fun found => absent found.1, and_iff_right undetected, and_iff_right readable]
    exact longer
  | failed err unreadable =>
    obtain ⟨other, inside, uploadedSig, err', candidate, failed⟩ := unreadable
    have nothing : ¬Lists (.ok (.error err)) sl := by
      simp [Lists]
    refine iff_of_false nothing ?_
    intro listed
    cases listed with
    | inl found =>
      obtain ⟨⟨entry, -, _, message, -, readIs, -⟩, -⟩ := found
      rw [failed] at readIs
      cases readIs
    | inr appended => exact appended.2.1 other inside ⟨uploadedSig, err', candidate, failed⟩

/-- **What an attach with the detector lists**: the list as it was if an entry is detected, and the
list with the new element otherwise. -/
theorem lists_attachDetecting (listed : Lists (role.list se) existing) :
    Lists (role.list (attachDetecting verifier role se new)) sl ↔
      (∃ digest mediaType ann, Described new digest mediaType ann) ∧
        ((∃ entry ∈ existing, Detected verifier new entry) ∧ sl = existing ∨
          (∀ entry ∈ existing, ¬Detected verifier new entry) ∧
            (∀ entry ∈ existing, ¬Unreadable new entry) ∧ sl = existing ++ [new]) := by
  obtain ⟨value, valueIs, read⟩ := listed
  rw [list_attachDetecting, valueIs]
  by_cases legible : ∃ digest mediaType ann, Described new digest mediaType ann
  · rw [and_iff_right legible]
    obtain ⟨digest, mediaType, ann, described⟩ := legible
    exact lists_attached_search read ⟨ann, described.annotations⟩ (find_searches described read)
  · refine iff_of_false ?_ fun found => legible found.1
    rintro ⟨longer, ran, -⟩
    have fails : ∃ err, findExisting (makeSignOpts [.withDupeDetector (newDupeDetector verifier)])
        value new = .error err := by
      cases result : find verifier value new with
      | error err => exact ⟨err, result⟩
      | ok found => exact absurd (described_of_find result) legible
    obtain ⟨err, failed⟩ := fails
    simp only [attached, bind, Except.bind, failed] at ran
    cases ran

/-! ## What a detector is for -/

/-- An element is accepted by a verifier: as a signature by its own signature over the payload, as
an attestation by the signatures inside the payload. -/
def VerifiesAs (p : Platform) (verifier : Verifier) (role : Role) (sig : OciSignature) : Prop :=
  match role with
  | .signature => verifyOCISignature verifier sig.toSignature = none
  | .attestation => verifyOCIAttestation p verifier sig.toSignature = none

instance (p : Platform) (verifier : Verifier) (role : Role) (sig : OciSignature) :
    Decidable (VerifiesAs p verifier role sig) :=
  match role with
  | .signature => inferInstanceAs (Decidable (verifyOCISignature verifier _ = none))
  | .attestation => inferInstanceAs (Decidable (verifyOCIAttestation p verifier _ = none))

/-- An entry makes a new element redundant: both have the same digest, media type, annotations apart
from the signature, and payload, and the entry is accepted. -/
structure Redundant (p : Platform) (verifier : Verifier) (role : Role) (new entry : OciSignature) :
    Prop where
  /-- The same digest and media type. -/
  blob : SameBlob new entry
  /-- The same annotations apart from the signature. -/
  annotations : ∃ ann kept, new.annotations = .ok ann ∧ entry.annotations = .ok kept ∧
    ∀ key, key ≠ signatureAnnotationKey → kept.lookup key = ann.lookup key
  /-- The same payload. -/
  payload : ∃ payload, new.payload = .ok payload ∧ entry.payload = .ok payload
  /-- The entry is accepted. -/
  verifies : VerifiesAs p verifier role entry

/-- The purpose of the detector, for one entity and one new element. -/
structure Deduplicates (p : Platform) (verifier : Verifier) (role : Role) (se : Oci.SignedEntity)
    (existing : List OciSignature) (new : OciSignature) : Prop where
  /-- Nothing is added to a list that has a redundant entry. -/
  redundant : (∃ entry ∈ existing, Redundant p verifier role new entry) →
    Lists (role.list (attachDetecting verifier role se new)) existing
  /-- The new element is appended to any other list. -/
  novel : (¬∃ entry ∈ existing, Redundant p verifier role new entry) →
    Lists (role.list (attachDetecting verifier role se new)) (existing ++ [new])
  /-- A second attach changes nothing. -/
  twice : ∀ sl, Lists (role.list (attachDetecting verifier role se new)) sl →
    Lists (role.list (attachDetecting verifier role (attachDetecting verifier role se new) new)) sl

/-- A signature that verifies is detected by its own copy, if it is not empty and if its content is
its payload. -/
theorem detected_self (described : Described new digest mediaType ann)
    (content : new.layer.uncompressed = new.payload) (signed : new.base64Signature ≠ .ok "")
    (verifies : VerifiesAs p verifier .signature new) :
    Detected verifier new new := by
  have accepted : verifyOCISignature verifier new.toSignature = none := verifies
  unfold verifyOCISignature at accepted
  split at accepted
  · cases accepted
  · rename_i text textIs
    split at accepted
    · cases accepted
    · rename_i uploadedSig decoded
      split at accepted
      · cases accepted
      · rename_i message payloadIs
        have nonempty : text ≠ "" := by
          intro empty
          rw [textIs, empty] at signed
          exact signed rfl
        refine ⟨uploadedSig, message, ?_, content.trans payloadIs, accepted⟩
        exact (candidate_iff described described textIs).mpr
          ⟨⟨annotationsKept_iff.mpr fun key text found => .inr found, rfl, rfl, nonempty⟩, decoded⟩

/-- The condition for the purpose: the element can be read, and the list has a redundant entry and
one that is detected, or has neither and the element is detected by its own copy. -/
def Distinguishes (p : Platform) (verifier : Verifier) (role : Role)
    (existing : List OciSignature) (new : OciSignature) : Prop :=
  (∃ digest mediaType ann, Described new digest mediaType ann) ∧
    ((∃ entry ∈ existing, Redundant p verifier role new entry) ∧
        (∃ entry ∈ existing, Detected verifier new entry) ∨
      (¬∃ entry ∈ existing, Redundant p verifier role new entry) ∧
        (∀ entry ∈ existing, ¬Detected verifier new entry) ∧
        (∀ entry ∈ existing, ¬Unreadable new entry) ∧ Detected verifier new new)

theorem Deduplicates.distinguishes (deduplicates : Deduplicates p verifier role se existing new)
    (listed : Lists (role.list se) existing) : Distinguishes p verifier role existing new := by
  by_cases redundant : ∃ entry ∈ existing, Redundant p verifier role new entry
  · have kept := (lists_attachDetecting listed).mp (deduplicates.redundant redundant)
    refine ⟨kept.1, .inl ⟨redundant, ?_⟩⟩
    cases kept.2 with
    | inl found => exact found.1
    | inr appended => simp at appended
  · have ran := deduplicates.novel redundant
    have added := (lists_attachDetecting listed).mp ran
    cases added.2 with
    | inl found => simp at found
    | inr appended =>
      have again := (lists_attachDetecting ran).mp (deduplicates.twice _ ran)
      have self : Detected verifier new new := by
        cases again.2 with
        | inl found =>
          obtain ⟨entry, inside, detected⟩ := found.1
          cases List.mem_append.mp inside with
          | inl old => exact absurd detected (appended.1 entry old)
          | inr own =>
            rw [List.mem_singleton.mp own] at detected
            exact detected
        | inr longer => simp at longer
      exact ⟨added.1, .inr ⟨redundant, appended.1, appended.2.1, self⟩⟩

theorem Distinguishes.deduplicates (distinguishes : Distinguishes p verifier role existing new)
    (listed : Lists (role.list se) existing) :
    Deduplicates p verifier role se existing new := by
  have once : ∀ sl, Lists (role.list (attachDetecting verifier role se new)) sl ↔ _ :=
    fun sl => lists_attachDetecting listed
  obtain ⟨legible, condition⟩ := distinguishes
  -- The second attach finds whatever the first one found, or the element that it appended.
  have repeats : ∀ sl, Lists (role.list (attachDetecting verifier role se new)) sl →
      (∃ entry ∈ sl, Detected verifier new entry) → Lists (role.list
        (attachDetecting verifier role (attachDetecting verifier role se new) new)) sl :=
    fun sl ran detected => (lists_attachDetecting ran).mpr ⟨legible, .inl ⟨detected, rfl⟩⟩
  cases condition with
  | inl found =>
    have ran : Lists (role.list (attachDetecting verifier role se new)) existing :=
      (once existing).mpr ⟨legible, .inl ⟨found.2, rfl⟩⟩
    refine ⟨fun _ => ran, fun novel => absurd found.1 novel, fun sl given => repeats sl given ?_⟩
    cases ((once sl).mp given).2 with
    | inl same =>
      rw [same.2]
      exact found.2
    | inr appended =>
      obtain ⟨entry, inside, detected⟩ := found.2
      exact absurd detected (appended.1 entry inside)
  | inr novel =>
    obtain ⟨irredundant, undetected, readable, self⟩ := novel
    have ran : Lists (role.list (attachDetecting verifier role se new)) (existing ++ [new]) :=
      (once _).mpr ⟨legible, .inr ⟨undetected, readable, rfl⟩⟩
    refine ⟨fun redundant => absurd redundant irredundant, fun _ => ran,
      fun sl given => repeats sl given ?_⟩
    cases ((once sl).mp given).2 with
    | inl same =>
      rw [same.2]
      exact same.1
    | inr appended =>
      rw [appended.2.2]
      exact ⟨new, List.mem_append_right _ (List.mem_singleton_self new), self⟩

/-- **When an attach with the detector adds no duplicates.** For every list of existing entries,
every verifier and every new signature or attestation, the detector does what it is for exactly
when it can read the new element and tells redundant entries from others, and the new element is
detected by its own copy. -/
theorem deduplicates_iff (p : Platform) (verifier : Verifier) (role : Role)
    (se : Oci.SignedEntity) (existing : List OciSignature) (new : OciSignature)
    (listed : Lists (role.list se) existing) :
    Deduplicates p verifier role se existing new ↔ Distinguishes p verifier role existing new :=
  ⟨fun deduplicates => deduplicates.distinguishes listed,
    fun distinguishes => distinguishes.deduplicates listed⟩

/-- An unsigned image. -/
def unsignedImage : Oci.SignedEntity :=
  ⟨.image, .ok ⟨"sha256", "00"⟩, .ok (.ok emptySignatures), .ok (.ok emptySignatures)⟩

theorem unsignedImage_lists : Lists (role.list unsignedImage) [] := by
  cases role <;> exact ⟨emptySignatures, rfl, rfl⟩

/-- An attestation. -/
def attestationTwice : OciSignature :=
  StaticLayer.signature sampleLoader id
    ⟨utf8Bytes ("\x7b\"payloadType\":\"application/vnd.in-toto+json\"," ++
      "\"payload\":\"\",\"signatures\":[\x7b\"sig\":\"AQ==\"\x7d]\x7d"), "",
      StaticOptions.given []⟩

theorem described_static (b : Bytes) (b64sig : String) (opts : StaticOptions) :
    Described (StaticLayer.signature sampleLoader id ⟨b, b64sig, opts⟩) (sha256Hash id b)
      opts.layerMediaType (StaticLayer.annotations ⟨b, b64sig, opts⟩) :=
  ⟨rfl, rfl, rfl⟩

/-- An attestation that verifies is attached to an image once more by each attach: the second time
its own copy is in the list, which has the same content and verifies. -/
theorem attestation_attached_twice :
    VerifiesAs samplePlatform sampleVerifier .attestation attestationTwice ∧
    Lists (Role.list (attachDetecting sampleVerifier .attestation unsignedImage attestationTwice)
      .attestation) [attestationTwice] ∧
    Lists (Role.list (attachDetecting sampleVerifier .attestation
        (attachDetecting sampleVerifier .attestation unsignedImage attestationTwice)
        attestationTwice) .attestation) [attestationTwice, attestationTwice] ∧
    ¬Deduplicates samplePlatform sampleVerifier .attestation unsignedImage [] attestationTwice := by
  have never : ∀ sl : List OciSignature, (∀ entry ∈ sl, entry = attestationTwice) →
      (∀ entry ∈ sl, ¬Detected sampleVerifier attestationTwice entry) ∧
        ∀ entry ∈ sl, ¬Unreadable attestationTwice entry := by
    intro sl all
    have passed : ∀ entry ∈ sl, ¬Detected sampleVerifier attestationTwice entry ∧
        ¬Unreadable attestationTwice entry := by
      intro entry inside
      rw [all entry inside]
      exact passed_over_unsigned rfl
    exact ⟨fun entry inside => (passed entry inside).1, fun entry inside => (passed entry inside).2⟩
  have legible : ∃ digest mediaType ann, Described attestationTwice digest mediaType ann :=
    ⟨_, _, _, described_static _ _ _⟩
  have empty := never [] (by simp)
  have once : Lists (Role.list (attachDetecting sampleVerifier .attestation unsignedImage
      attestationTwice) .attestation) [attestationTwice] :=
    (lists_attachDetecting unsignedImage_lists).mpr ⟨legible, .inr ⟨empty.1, empty.2, rfl⟩⟩
  have single := never [attestationTwice] (by simp)
  refine ⟨by decide +kernel, once, ?_, ?_⟩
  · exact (lists_attachDetecting once).mpr ⟨legible, .inr ⟨single.1, single.2, rfl⟩⟩
  · intro deduplicates
    have again := (lists_attachDetecting once).mp (deduplicates.twice _ once)
    cases again.2 with
    | inl found =>
      obtain ⟨entry, inside, detected⟩ := found.1
      exact single.1 entry inside detected
    | inr longer => simp at longer

/-- A signature. -/
def signatureTwice : OciSignature :=
  StaticLayer.signature sampleLoader id ⟨samplePayload, "AQ==", StaticOptions.given []⟩

/-- A signature that verifies can be attached to an unsigned image any number of times. -/
theorem deduplicates_iff_signature :
    Deduplicates samplePlatform sampleVerifier .signature unsignedImage [] signatureTwice := by
  apply (deduplicates_iff samplePlatform sampleVerifier .signature unsignedImage [] signatureTwice
    unsignedImage_lists).mpr
  have described := described_static samplePayload "AQ==" (StaticOptions.given [])
  have verifies : VerifiesAs samplePlatform sampleVerifier .signature signatureTwice := by
    decide +kernel
  have signed : signatureTwice.base64Signature ≠ .ok "" := by
    intro empty
    have same : "AQ==" = "" := Except.ok.inj empty
    exact absurd same (by decide)
  refine ⟨⟨_, _, _, described⟩, .inr ⟨by simp, by simp, by simp, ?_⟩⟩
  exact detected_self described rfl signed verifies

end Cosign.Verif
