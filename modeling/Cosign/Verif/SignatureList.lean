import Cosign.Go.Results
import Cosign.Remote.Ops
import Cosign.Verif.Representation
import Cosign.Verify.Image

/-!
# Lists of signatures and their images

Verification reads a list of signatures by `Get`; an upload writes the layers of its image.
Appending extends both by the same elements. `ReplaceSignatures` writes the list of its base into
the image but appends it to that base again in `Get`, and `Replace` changes `Get` and leaves the
image alone, so either keeps the agreement only where it changes nothing.
-/
namespace Cosign.Verif

open Cosign.Go Cosign.Encoding Cosign.Oci Cosign.Remote Cosign.Verify

variable {pem : PemLoader} {base next : Signatures} {image : Image} {sig : OciSignature}
  {sl sigs : List OciSignature} {layers all : List StoredLayer} {stored : StoredLayer}

/-! ## What is uploaded -/

/-- The layer that an upload makes of a signature. -/
structure Stores (sig : OciSignature) (stored : StoredLayer) : Prop where
  /-- The bytes are the payload. -/
  payload : sig.payload = .ok stored.content
  /-- The annotations of the descriptor are those of the signature. -/
  annotations : sig.annotations = .ok stored.descriptor.annotations
  /-- The digest of the descriptor is that of the signature. -/
  digest : sig.layer.digest = .ok stored.descriptor.digest
  /-- The media type of the descriptor is that of the signature. -/
  mediaType : sig.layer.mediaType = .ok stored.descriptor.mediaType

/-- A signature as an upload treats it: an addendum, a manifest entry and a stored layer. -/
def uploadSig (sig : OciSignature) : Except GoError StoredLayer := do
  let add ← addendum sig
  let entry ← add.entry
  Image.upload entry

/-- An uploaded signature is stored with its own payload and annotations. -/
theorem uploadSig_eq_ok : uploadSig sig = .ok stored ↔ Stores sig stored := by
  constructor
  · intro uploaded
    obtain ⟨add, added, rest⟩ := bind_eq_value.mp uploaded
    obtain ⟨entry, entered, sent⟩ := bind_eq_value.mp rest
    obtain ⟨ann, annotations, addIs⟩ := bind_eq_value.mp added
    rw [← Except.ok.inj addIs] at entered
    obtain ⟨desc, described, entryIs⟩ := bind_eq_value.mp entered
    rw [← Except.ok.inj entryIs] at sent
    obtain ⟨digest, digested, typing⟩ := bind_eq_value.mp described
    obtain ⟨mediaType, typed, descIs⟩ := bind_eq_value.mp typing
    obtain ⟨layer, found, reading⟩ := bind_eq_value.mp sent
    rw [← Except.ok.inj found] at reading
    obtain ⟨content, read, storedIs⟩ := bind_eq_value.mp reading
    rw [← Except.ok.inj storedIs, ← Except.ok.inj descIs]
    exact ⟨sig.payload_eq.trans read, annotations, digested, typed⟩
  · intro stores
    have read := sig.payload_eq.symm.trans stores.payload
    simp only [uploadSig, addendum, Addendum.entry, Addendum.descriptor, Image.upload,
      stores.annotations, stores.digest, stores.mediaType, read, bind, Except.bind]

theorem published_eq_ok : image.published = .ok layers ↔
    ∃ entries, image.manifest = .ok entries ∧ entries.mapM Image.upload = .ok layers :=
  bind_eq_value

/-- What an extended image uploads: the layers of its base and then those added. -/
theorem published_append {adds : List Addendum} :
    (image.append adds).published = .ok all ↔
      ∃ layers added, image.published = .ok layers ∧
        adds.mapM (fun add => add.entry >>= Image.upload) = .ok added ∧ all = layers ++ added := by
  cases adds with
  | nil =>
    constructor
    · exact fun published => ⟨all, [], published, rfl, (List.append_nil all).symm⟩
    · rintro ⟨layers, added, published, nothing, same⟩
      rw [List.mapM_nil] at nothing
      rw [same, ← Except.ok.inj nothing, List.append_nil]
      exact published
  | cons first rest =>
    simp only [mapM_bind_eq_ok, published_eq_ok]
    constructor
    · rintro ⟨entries, manifest, uploaded⟩
      obtain ⟨old, oldManifest, manifest⟩ := bind_eq_value.mp manifest
      obtain ⟨new, newEntries, manifest⟩ := bind_eq_value.mp manifest
      rw [← Except.ok.inj manifest] at uploaded
      obtain ⟨layers, added, before, after, same⟩ := mapM_append_eq_ok.mp uploaded
      exact ⟨layers, added, ⟨old, oldManifest, before⟩, ⟨new, newEntries, after⟩, same⟩
    · rintro ⟨layers, added, ⟨old, oldManifest, before⟩, ⟨new, newEntries, after⟩, same⟩
      refine ⟨old ++ new, ?_, mapM_append_eq_ok.mpr ⟨layers, added, before, after, same⟩⟩
      exact bind_eq_value.mpr ⟨old, oldManifest, bind_eq_value.mpr ⟨new, newEntries, rfl⟩⟩

theorem published_append_sigs {adds : List Addendum} (added : sigs.mapM addendum = .ok adds) :
    (image.append adds).published = .ok all ↔
      ∃ layers added, image.published = .ok layers ∧ List.Forall₂ Stores sigs added ∧
        all = layers ++ added := by
  have stores : ∀ new, adds.mapM (fun add => add.entry >>= Image.upload) = .ok new ↔
      List.Forall₂ Stores sigs new := by
    intro new
    have whole : sigs.mapM uploadSig = .ok new ↔ List.Forall₂ Stores sigs new := by
      rw [mapM_eq_ok]
      simp only [uploadSig_eq_ok]
    rw [← whole]
    constructor
    · exact fun uploaded => mapM_bind_eq_ok.mpr ⟨adds, added, uploaded⟩
    · intro uploaded
      obtain ⟨middle, before, after⟩ := mapM_bind_eq_ok.mp uploaded
      rw [added] at before
      rw [Except.ok.inj before]
      exact after
  rw [published_append]
  simp only [stores]

/-- A list of signatures extended by others: its image and its `Get`. -/
theorem appendSignatures_eq_ok (appended : appendSignatures base sigs = .ok next) :
    next.get = sigAppenderGet base sigs ∧ ∀ all, next.image.published = .ok all ↔
      ∃ layers added, base.image.published = .ok layers ∧ List.Forall₂ Stores sigs added ∧
        all = layers ++ added := by
  obtain ⟨adds, added, appended⟩ := bind_eq_value.mp appended
  rw [← Except.ok.inj appended]
  exact ⟨rfl, fun all => published_append_sigs added⟩

/-- A replaced list of signatures: its image holds the list of the base, and its `Get` holds that
list twice. -/
theorem replaceSignatures_eq_ok (replaced : replaceSignatures base = .ok next) :
    ∃ sl, base.get = .ok sl ∧ next.get = .ok (sl ++ sl) ∧
      ∀ all, next.image.published = .ok all ↔ List.Forall₂ Stores sl all := by
  obtain ⟨sl, read, replaced⟩ := bind_eq_value.mp replaced
  obtain ⟨adds, added, replaced⟩ := bind_eq_value.mp replaced
  rw [← Except.ok.inj replaced]
  refine ⟨sl, read, ?_, fun all => ?_⟩
  · show sigAppenderGet base sl = _
    exact bind_eq_value.mpr ⟨sl, read, rfl⟩
  · rw [published_append_sigs added]
    constructor
    · rintro ⟨layers, new, nothing, stores, same⟩
      rw [same, ← Except.ok.inj nothing]
      exact stores
    · exact fun stores => ⟨[], all, rfl, stores, rfl⟩

/-! ## Agreement of list and image -/

/-- An element of a list and the layer in its place have the same payload, annotations and
digest. -/
structure Corresponds (sig : OciSignature) (stored : StoredLayer) : Prop where
  /-- The same payload. -/
  payload : sig.payload = .ok stored.content
  /-- The same annotations. -/
  annotations : sig.annotations = .ok stored.descriptor.annotations
  /-- The same digest. -/
  digest : sig.layer.digest = .ok stored.descriptor.digest

/-- `Get` returns a list whose elements correspond, in order, to the layers of the image. -/
def Coherent (value : Signatures) : Prop :=
  ∃ sl layers, value.get = .ok sl ∧ value.image.published = .ok layers ∧
    List.Forall₂ Corresponds sl layers

theorem Stores.corresponds (stores : Stores sig stored) : Corresponds sig stored :=
  ⟨stores.payload, stores.annotations, stores.digest⟩

/-- A signature of which every method that an upload calls succeeds. -/
def Readable (sig : OciSignature) : Prop := ∃ stored, Stores sig stored

theorem exists_stores (readable : ∀ sig ∈ sigs, Readable sig) :
    ∃ layers, List.Forall₂ Stores sigs layers := by
  induction sigs with
  | nil => exact ⟨[], .nil⟩
  | cons sig rest ih =>
    obtain ⟨stored, stores⟩ := readable sig List.mem_cons_self
    obtain ⟨layers, others⟩ := ih fun other inside => readable other (List.mem_cons_of_mem _ inside)
    exact ⟨stored :: layers, .cons stores others⟩

/-- The signature that a downloaded layer is. -/
def downloaded (pem : PemLoader) (stored : StoredLayer) : OciSignature :=
  newSigLayer pem stored.layer stored.descriptor

theorem published_ofStored : (Image.ofStored layers).published = .ok layers := by
  refine published_eq_ok.mpr ⟨_, rfl, mapM_eq_ok.mpr ?_⟩
  rw [List.forall₂_map_left_iff]
  exact List.forall₂_same.mpr fun stored _ => rfl

theorem sigsGet_ofStored :
    sigsGet pem (.ofStored layers) = .ok (layers.map (downloaded pem)) := by
  refine bind_eq_value.mpr ⟨_, rfl, mapM_eq_ok.mpr ?_⟩
  rw [List.forall₂_map_left_iff, List.forall₂_map_right_iff]
  exact List.forall₂_same.mpr fun stored _ => rfl

theorem corresponds_downloaded : Corresponds (downloaded pem stored) stored := ⟨rfl, rfl, rfl⟩

theorem coherent_sigs : Coherent (Oci.sigs pem (.ofStored layers)) := by
  refine ⟨layers.map (downloaded pem), layers, sigsGet_ofStored, published_ofStored, ?_⟩
  rw [List.forall₂_map_left_iff]
  exact List.forall₂_same.mpr fun stored _ => corresponds_downloaded

theorem coherent_empty : Coherent emptySignatures := ⟨[], [], rfl, rfl, .nil⟩

theorem coherent_append (coherent : Coherent base) (readable : ∀ sig ∈ sigs, Readable sig)
    (appended : appendSignatures base sigs = .ok next) : Coherent next := by
  obtain ⟨sl, layers, read, published, related⟩ := coherent
  obtain ⟨added, stores⟩ := exists_stores readable
  obtain ⟨getIs, publishes⟩ := appendSignatures_eq_ok appended
  refine ⟨sl ++ sigs, layers ++ added, ?_, ?_, ?_⟩
  · rw [getIs]
    exact bind_eq_value.mpr ⟨sl, read, rfl⟩
  · exact (publishes _).mpr ⟨layers, added, published, stores, rfl⟩
  · exact List.rel_append related (stores.imp fun _ _ stored => stored.corresponds)

/-- `ReplaceSignatures` gives a list that agrees with its image only when there is nothing to
replace: otherwise `Get` has every element twice. -/
theorem coherent_replaceSignatures_iff (replaced : replaceSignatures base = .ok next) :
    Coherent next ↔ base.get = .ok [] := by
  obtain ⟨sl, read, getIs, publishes⟩ := replaceSignatures_eq_ok replaced
  rw [read]
  constructor
  · rintro ⟨twice, layers, again, published, related⟩
    rw [getIs] at again
    have stores := (publishes layers).mp published
    have same := related.length_eq
    rw [← Except.ok.inj again, List.length_append, stores.length_eq] at same
    have nothing : layers.length = 0 := by omega
    rw [← stores.length_eq] at nothing
    rw [List.length_eq_zero_iff.mp nothing]
  · intro nothing
    rw [Except.ok.inj nothing] at getIs publishes
    exact ⟨[], [], getIs, (publishes []).mpr .nil, .nil⟩

/-! ## The replace operation -/

variable {predicateURI : String} {o : OciSignature}

/-- The attestation is of the given predicate type. -/
def hasPredicate (predicateURI : String) (sig : OciSignature) : Bool :=
  match predicateType sig with
  | .ok (.ok val) => isPredicate predicateURI val
  | _ => false

/-- The predicate type of an attestation can be read. -/
def Typed (sig : OciSignature) : Prop := ∃ val, predicateType sig = .ok (.ok val)

theorem hasPredicate_congr {other : OciSignature} (same : sig.payload = other.payload) :
    hasPredicate predicateURI sig = hasPredicate predicateURI other := by
  have read : predicateType sig = predicateType other := by
    unfold predicateType
    rw [same]
  unfold hasPredicate
  rw [read]

/-- A round of the loop of `Replace`: the attestation is read, and kept if it is of another
type. -/
theorem keepOthers_cons_eq_ok {sig : OciSignature} {rest kept : List OciSignature} :
    keepOthers predicateURI (sig :: rest) = .ok (.ok kept) ↔
      Typed sig ∧ ∃ others, keepOthers predicateURI rest = .ok (.ok others) ∧
        kept = if hasPredicate predicateURI sig then others else sig :: others := by
  rw [keepOthers]
  unfold Typed hasPredicate
  cases predicateType sig with
  | error panic => simp [bind, Except.bind]
  | ok outcome =>
    cases outcome with
    | error err => simp [bind, Except.bind]
    | ok val =>
      cases keepOthers predicateURI rest with
      | error panic => simp [bind, Except.bind]
      | ok outcome =>
        cases outcome with
        | error err => simp [bind, Except.bind]
        | ok others =>
          simp only [bind, Except.bind, Except.ok.injEq, exists_eq', true_and, exists_eq_left']
          exact eq_comm

/-- The loop of `Replace` reads every attestation and keeps those of another type. -/
theorem keepOthers_eq_ok {kept : List OciSignature} :
    keepOthers predicateURI sl = .ok (.ok kept) ↔
      (∀ sig ∈ sl, Typed sig) ∧ kept = sl.filter (fun sig => !hasPredicate predicateURI sig) := by
  induction sl generalizing kept with
  | nil =>
    constructor
    · intro done
      exact ⟨fun sig inside => absurd inside List.not_mem_nil,
        (Except.ok.inj (Except.ok.inj done)).symm⟩
    · intro found
      rw [found.2]
      rfl
  | cons sig rest ih =>
    rw [keepOthers_cons_eq_ok, List.forall_mem_cons, List.filter_cons, and_assoc]
    simp only [ih]
    cases hasPredicate predicateURI sig <;> simp

/-- A replaced list: `Get` has the new attestation and those of another type, and the image is
the old one. -/
theorem replace_eq_ok : replace predicateURI base o = .ok (.ok next) ↔
    ∃ sl, base.get = .ok sl ∧ (∀ sig ∈ sl, Typed sig) ∧
      next = ⟨base.image, .ok (o :: sl.filter fun sig => !hasPredicate predicateURI sig)⟩ := by
  unfold replace
  cases read : base.get with
  | error err => simp
  | ok sl =>
    constructor
    · intro replaced
      obtain ⟨outcome, kept, rest⟩ := bind_eq_ok.mp replaced
      cases outcome with
      | error err => cases Except.ok.inj rest
      | ok kept' =>
        obtain ⟨typed, keptIs⟩ := keepOthers_eq_ok.mp kept
        refine ⟨sl, rfl, typed, ?_⟩
        rw [← Except.ok.inj (Except.ok.inj rest), keptIs]
    · rintro ⟨same, readAs, typed, nextIs⟩
      rw [← Except.ok.inj readAs] at typed nextIs
      rw [nextIs]
      exact bind_eq_ok.mpr ⟨_, keepOthers_eq_ok.mpr ⟨typed, rfl⟩, rfl⟩

/-- The new attestation stands first already, and no other is of the type. -/
def AlreadyReplaced (predicateURI : String) (o : OciSignature) (sl : List OciSignature) : Prop :=
  ∃ first rest, sl = first :: rest ∧ o.payload = first.payload ∧
    o.annotations = first.annotations ∧ o.layer.digest = first.layer.digest ∧
    hasPredicate predicateURI first = true ∧ ∀ sig ∈ rest, hasPredicate predicateURI sig = false

theorem Corresponds.payload_eq {other : OciSignature} (first : Corresponds sig stored)
    (second : Corresponds other stored) : sig.payload = other.payload := by
  rw [first.payload, second.payload]

/-- A list with its attestations of a type left out does not fit the layers of the list one place
further on: every element would have the payload of the one before, and none would be left out. -/
theorem not_shifted (related : List.Forall₂ Corresponds sl layers)
    (shifted : List.Forall₂ Corresponds
      (sig :: sl.filter fun other => !hasPredicate predicateURI other) layers) :
    hasPredicate predicateURI sig = true := by
  induction related generalizing sig with
  | nil => cases shifted
  | @cons old stored rest others head tail ih =>
    obtain ⟨first, after⟩ := List.forall₂_cons.mp shifted
    rw [hasPredicate_congr (first.payload_eq head)]
    by_cases typed : hasPredicate predicateURI old = true
    · exact typed
    · rw [List.filter_cons_of_pos (by simpa using typed)] at after
      exact ih after

/-- `Replace` gives a list that agrees with its image only when it changes nothing. -/
theorem coherent_replace_iff (coherent : Coherent base) (read : base.get = .ok sl)
    (replaced : replace predicateURI base o = .ok (.ok next)) :
    Coherent next ↔ AlreadyReplaced predicateURI o sl := by
  obtain ⟨same, layers, readAs, published, related⟩ := coherent
  rw [read] at readAs
  rw [← Except.ok.inj readAs] at related
  obtain ⟨again, readAgain, typed, nextIs⟩ := replace_eq_ok.mp replaced
  rw [read] at readAgain
  rw [← Except.ok.inj readAgain] at nextIs
  rw [nextIs]
  constructor
  · intro kept
    obtain ⟨new, layers', newIs, published', fits⟩ := kept
    rw [← Except.ok.inj newIs] at fits
    rw [show layers' = layers from Except.ok.inj (published'.symm.trans published)] at fits
    obtain ⟨stored, others, first, rest, layersAre⟩ := List.forall₂_cons_left_iff.mp fits
    rw [layersAre] at related
    obtain ⟨old, restOld, oldFirst, oldRest, slIs⟩ := List.forall₂_cons_right_iff.mp related
    rw [slIs] at rest ⊢
    have typedFirst : hasPredicate predicateURI old = true := by
      by_cases typedOld : hasPredicate predicateURI old = true
      · exact typedOld
      · rw [List.filter_cons_of_pos (by simpa using typedOld)] at rest
        exact not_shifted oldRest rest
    rw [List.filter_cons_of_neg (by simp [typedFirst])] at rest
    have untyped : ∀ sig ∈ restOld, hasPredicate predicateURI sig = false := by
      have all := List.length_filter_eq_length_iff.mp (rest.length_eq.trans oldRest.length_eq.symm)
      exact fun sig inside => by simpa using all sig inside
    refine ⟨old, restOld, rfl, first.payload_eq oldFirst, ?_, ?_, typedFirst, untyped⟩
    · rw [first.annotations, oldFirst.annotations]
    · rw [first.digest, oldFirst.digest]
  · rintro ⟨first, rest, slIs, payload, annotations, digest, isFirst, others⟩
    rw [slIs] at related
    obtain ⟨stored, storedRest, head, tail, layersAre⟩ := List.forall₂_cons_left_iff.mp related
    refine ⟨_, layers, rfl, published, ?_⟩
    rw [slIs, layersAre, List.filter_cons_of_neg (by simp [isFirst])]
    have kept : rest.filter (fun sig => !hasPredicate predicateURI sig) = rest :=
      List.filter_eq_self.mpr fun sig inside => by rw [others sig inside]; rfl
    rw [kept]
    exact .cons ⟨payload.trans head.payload, annotations.trans head.annotations,
      digest.trans head.digest⟩ tail

/-! ## Verification before upload and after download -/

/-- The accessors of a signature answer what its layer answers after a download. -/
def MeansSame (pem : PemLoader) (sig : OciSignature) : Prop :=
  ∃ ann hash, sig.annotations = .ok ann ∧ sig.layer.digest = .ok hash ∧
    sig.toSignature = SigLayer.signature pem ⟨sig.payload, hash, ann⟩

theorem Survives.meansSame (agrees : Survives pem sig) (readable : Readable sig) :
    MeansSame pem sig := by
  obtain ⟨ann, annotations, same⟩ := agrees
  obtain ⟨stored, stores⟩ := readable
  exact ⟨ann, stored.descriptor.digest, annotations, stores.digest, same _⟩

theorem meansSame_downloaded : MeansSame pem (downloaded pem stored) :=
  ⟨stored.descriptor.annotations, stored.descriptor.digest, rfl, rfl, rfl⟩

/-- What corresponds to a layer and means the same is what is read from the layer. -/
theorem toSignature_eq_downloaded (corresponds : Corresponds sig stored)
    (means : MeansSame pem sig) : sig.toSignature = (downloaded pem stored).toSignature := by
  obtain ⟨ann, hash, annotations, digest, same⟩ := means
  rw [corresponds.annotations] at annotations
  rw [corresponds.digest] at digest
  rw [same, corresponds.payload, ← Except.ok.inj annotations, ← Except.ok.inj digest]
  rfl

theorem get_downloaded {value : Signatures} (coherent : Coherent value)
    (means : ∀ sl, value.get = .ok sl → ∀ sig ∈ sl, MeansSame pem sig)
    (published : value.image.published = .ok layers) :
    (value.get.map fun sl => sl.map (·.toSignature)) =
      (Oci.sigs pem (.ofStored layers)).get.map fun sl => sl.map (·.toSignature) := by
  obtain ⟨sl, layers', read, published', related⟩ := coherent
  have same : layers' = layers := Except.ok.inj (published'.symm.trans published)
  rw [same] at related
  have equal : sl.map (·.toSignature) = (layers.map (downloaded pem)).map (·.toSignature) := by
    have meansAll := means sl read
    clear read published published' same means
    induction related with
    | nil => rfl
    | cons head tail ih =>
      rw [List.map_cons, List.map_cons, List.map_cons,
        toSignature_eq_downloaded head (meansAll _ List.mem_cons_self),
        ih fun sig inside => meansAll sig (List.mem_cons_of_mem _ inside)]
  rw [read, show (Oci.sigs pem (.ofStored layers)).get = _ from sigsGet_ofStored]
  exact congrArg Except.ok equal

/-- `verifySignatures` on what `Get` returns. -/
def verifyList (p : Platform) (value : Signatures) (h : Hash) (co : CheckOpts) :
    Call (CheckOpts × List Signature × Bool × Option GoError) :=
  verifySignatures p (value.get.map fun sl => sl.map (·.toSignature)) h co

/-- A list that agrees with its image is verified as the list that is read back. -/
theorem verifyList_downloaded {value : Signatures} (coherent : Coherent value)
    (means : ∀ sl, value.get = .ok sl → ∀ sig ∈ sl, MeansSame pem sig)
    (published : value.image.published = .ok layers) (p : Platform) (h : Hash) (co : CheckOpts) :
    verifyList p value h co = verifyList p (Oci.sigs pem (.ofStored layers)) h co :=
  congrArg (verifySignatures p · h co) (get_downloaded coherent means published)

/-! ## Attached signatures -/

/-- What `Signatures` of an entity with a signature attached returns: the list as it was, or the
list with the signature appended. -/
theorem attachedSignatures_eq_ok {se : SignedEntity} {so : SignOpts}
    (returned : attachedSignatures se (some sig) so = .ok (.ok next)) :
    ∃ base, se.signatures = .ok (.ok base) ∧
      (base = next ∨ appendSignatures base [sig] = .ok next) := by
  obtain ⟨read, signed, rest⟩ := bind_eq_ok.mp returned
  cases read with
  | error err => cases rest
  | ok base =>
    refine ⟨base, signed, ?_⟩
    cases found : findExisting so base sig with
    | error err =>
      simp only [found] at rest
      cases rest
    | ok existing =>
      cases existing with
      | some old =>
        simp only [found, Except.ok.injEq] at rest
        exact .inl rest
      | none =>
        simp only [found, Except.ok.injEq] at rest
        exact .inr rest

theorem attachedSignatures_novel {se : SignedEntity} {so : SignOpts}
    (signed : se.signatures = .ok (.ok base)) (novel : findExisting so base sig = .ok none) :
    attachedSignatures se (some sig) so = .ok (appendSignatures base [sig]) := by
  unfold attachedSignatures attached
  simp only [signed, novel, bind, Except.bind]

/-- A signature that is not redundant is published as the last layer. -/
theorem attached_published {se : SignedEntity} {so : SignOpts} (stores : Stores sig stored)
    (signed : se.signatures = .ok (.ok base)) (published : base.image.published = .ok layers)
    (novel : findExisting so base sig = .ok none) :
    ∃ next, attachedSignatures se (some sig) so = .ok (.ok next) ∧
      next.image.published = .ok (layers ++ [stored]) := by
  have added : List.mapM addendum [sig] = .ok [⟨sig.layer, stored.descriptor.annotations⟩] :=
    mapM_eq_ok.mpr (.cons (bind_eq_value.mpr ⟨_, stores.annotations, rfl⟩) .nil)
  obtain ⟨next, appended⟩ : ∃ next, appendSignatures base [sig] = .ok next :=
    ⟨_, bind_eq_value.mpr ⟨_, added, rfl⟩⟩
  refine ⟨next, (attachedSignatures_novel signed novel).trans (congrArg Except.ok appended), ?_⟩
  exact ((appendSignatures_eq_ok appended).2 _).mpr
    ⟨layers, [stored], published, .cons stores .nil, rfl⟩

/-! ## Runs -/

/-- An operation on a list of signatures. -/
inductive ListOp where
  /-- `AppendSignatures`. -/
  | append (sigs : List OciSignature)
  | replaceSignatures
  /-- `Replace` of the replace operation. -/
  | replace (predicateURI : String) (o : OciSignature)

namespace ListOp

/-- The result of an operation. -/
def run (base : Signatures) : ListOp → Call (Except GoError Signatures)
  | .append sigs => .ok (appendSignatures base sigs)
  | .replaceSignatures => .ok (Oci.replaceSignatures base)
  | .replace predicateURI o => Remote.replace predicateURI base o

/-- The signatures that an operation puts into the list. -/
def given : ListOp → List OciSignature
  | .append sigs => sigs
  | .replaceSignatures => []
  | .replace _ o => [o]

/-- What keeps list and image in agreement: an append; `ReplaceSignatures` on a list without
elements; `Replace` of an attestation that stands first already and is the only one of its
type. -/
def KeepsAgreement (base : Signatures) : ListOp → Prop
  | .append _ => True
  | .replaceSignatures => base.get = .ok []
  | .replace predicateURI o => ∃ sl, base.get = .ok sl ∧ AlreadyReplaced predicateURI o sl

end ListOp

/-- The empty list, or one that is downloaded. -/
def Started (pem : PemLoader) (value : Signatures) : Prop :=
  value = emptySignatures ∨ ∃ layers, value = Oci.sigs pem (.ofStored layers)

/-- A signature that can be uploaded and agrees with its annotations. -/
def Usable (pem : PemLoader) (sig : OciSignature) : Prop := Readable sig ∧ Survives pem sig

/-- One operation with signatures of a kind that keeps the agreement. -/
def AgreeingStep (kind : OciSignature → Prop) (value next : Signatures) : Prop :=
  ∃ op : ListOp, (∀ sig ∈ op.given, kind sig) ∧ op.KeepsAgreement value ∧
    op.run value = .ok (.ok next)

/-- One operation on a list that agrees with its image keeps the agreement exactly under its
condition. -/
theorem coherent_run_iff {op : ListOp} (coherent : Coherent base)
    (readable : ∀ sig ∈ op.given, Readable sig) (ran : op.run base = .ok (.ok next)) :
    Coherent next ↔ op.KeepsAgreement base := by
  cases op with
  | append sigs =>
    exact iff_of_true (coherent_append coherent readable (Except.ok.inj ran)) trivial
  | replaceSignatures => exact coherent_replaceSignatures_iff (Except.ok.inj ran)
  | replace predicateURI o =>
    obtain ⟨sl, read, -, -⟩ := replace_eq_ok.mp ran
    rw [coherent_replace_iff coherent read ran]
    constructor
    · exact fun already => ⟨sl, read, already⟩
    · rintro ⟨same, readAs, already⟩
      rw [read] at readAs
      rw [Except.ok.inj readAs]
      exact already

/-- The elements after an operation were there before or are given by it. -/
theorem mem_run {op : ListOp} (ran : op.run base = .ok (.ok next)) (read : next.get = .ok sl)
    (inside : sig ∈ sl) : sig ∈ op.given ∨ ∃ old, base.get = .ok old ∧ sig ∈ old := by
  cases op with
  | append sigs =>
    rw [(appendSignatures_eq_ok (Except.ok.inj ran)).1] at read
    obtain ⟨old, readOld, listIs⟩ := bind_eq_value.mp read
    rw [← Except.ok.inj listIs, List.mem_append] at inside
    exact inside.symm.imp_right fun before => ⟨old, readOld, before⟩
  | replaceSignatures =>
    obtain ⟨old, readOld, getIs, -⟩ := replaceSignatures_eq_ok (Except.ok.inj ran)
    rw [getIs] at read
    rw [← Except.ok.inj read, List.mem_append, or_self] at inside
    exact .inr ⟨old, readOld, inside⟩
  | replace predicateURI o =>
    obtain ⟨old, readOld, -, nextIs⟩ := replace_eq_ok.mp ran
    rw [nextIs] at read
    rw [← Except.ok.inj read, List.mem_cons] at inside
    refine inside.imp (fun new => List.mem_singleton.mpr new) fun kept => ?_
    exact ⟨old, readOld, List.mem_of_mem_filter kept⟩

theorem Started.meansSame {value : Signatures} (started : Started pem value)
    (read : value.get = .ok sl) (inside : sig ∈ sl) : MeansSame pem sig := by
  cases started with
  | inl empty =>
    rw [empty] at read
    rw [← Except.ok.inj read] at inside
    cases inside
  | inr stored =>
    obtain ⟨layers, valueIs⟩ := stored
    rw [valueIs] at read
    rw [← Except.ok.inj (sigsGet_ofStored.symm.trans read)] at inside
    obtain ⟨layer, -, sigIs⟩ := List.mem_map.mp inside
    rw [← sigIs]
    exact meansSame_downloaded

theorem Started.coherent {value : Signatures} (started : Started pem value) : Coherent value := by
  cases started with
  | inl empty =>
    rw [empty]
    exact coherent_empty
  | inr stored =>
    obtain ⟨layers, valueIs⟩ := stored
    rw [valueIs]
    exact coherent_sigs

/-- A run with usable signatures has elements that mean what their annotations say. -/
theorem meansSame_run {start value : Signatures} (started : Started pem start)
    (run : Relation.ReflTransGen (AgreeingStep (Usable pem)) start value) :
    ∀ sl, value.get = .ok sl → ∀ sig ∈ sl, MeansSame pem sig := by
  induction run with
  | refl => exact fun sl read sig inside => started.meansSame read inside
  | tail before step ih =>
    have ⟨op, usable, _, ran⟩ := step
    intro sl read sig inside
    cases mem_run ran read inside with
    | inl new => exact (usable sig new).2.meansSame (usable sig new).1
    | inr old =>
      have ⟨list, readOld, before⟩ := old
      exact ih list readOld sig before

/-- **List and image agree** in every run of operations that each keep the agreement and add
signatures that can be uploaded. If these also agree with their annotations, verifying the list in
memory and after an upload and a download give the same result. From every list of such a run, an
operation leads to one that agrees with its image exactly under its condition. -/
theorem list_agrees_with_image {start value : Signatures} (started : Started pem start)
    (run : Relation.ReflTransGen (AgreeingStep Readable) start value) :
    Coherent value ∧
    (Relation.ReflTransGen (AgreeingStep (Usable pem)) start value →
      ∀ layers, value.image.published = .ok layers → ∀ p h co,
        verifyList p value h co = verifyList p (Oci.sigs pem (.ofStored layers)) h co) ∧
    ∀ (op : ListOp) next, (∀ sig ∈ op.given, Readable sig) → op.run value = .ok (.ok next) →
      (Coherent next ↔ op.KeepsAgreement value) := by
  have coherent : Coherent value := by
    induction run with
    | refl => exact started.coherent
    | tail before step ih =>
      have ⟨op, readable, keeps, ran⟩ := step
      exact (coherent_run_iff ih readable ran).mpr keeps
  refine ⟨coherent, fun usable layers published p h co => ?_, fun op next readable ran => ?_⟩
  · exact verifyList_downloaded coherent (meansSame_run started usable) published p h co
  · exact coherent_run_iff coherent readable ran

theorem readable_static {sha256 : Bytes → Bytes} (l : StaticLayer) :
    Readable (l.signature pem sha256) :=
  ⟨⟨⟨l.opts.layerMediaType, sha256Hash sha256 l.b, l.annotations⟩, l.b⟩, rfl, rfl, rfl, rfl⟩

theorem plain_nothing : PlainOptions (.given []) where
  unreserved ann given key _ := by
    rw [← Option.some.inj given]
    exact AList.notMem_empty key
  chained _ := rfl
  roundTrips _ given := absurd given.symm (Option.some_ne_none _)

/-- An attestation without certificate and bundle. -/
def sampleAttestation : OciSignature :=
  StaticLayer.signature sampleLoader id ⟨samplePayload, "", StaticOptions.given []⟩

theorem sampleAttestation_built :
    newAttestation sampleLoader id samplePayload [] = .ok sampleAttestation := rfl

/-- One attestation, appended and then replaced by itself: its list has it twice, its image once.
Put into an empty list by the replace operation, it is in the list and not in the image. -/
theorem replaced_lists_disagree :
    ∃ once twice swapped, appendSignatures emptySignatures [sampleAttestation] = .ok once ∧
      Oci.replaceSignatures once = .ok twice ∧ ¬Coherent twice ∧
      Remote.replace "https://slsa.dev/provenance/v0.2" emptySignatures sampleAttestation =
        .ok (.ok swapped) ∧ ¬Coherent swapped := by
  obtain ⟨once, appended, getOnce, twice, replaced⟩ :
      ∃ once, appendSignatures emptySignatures [sampleAttestation] = .ok once ∧
        once.get = .ok [sampleAttestation] ∧ ∃ twice, Oci.replaceSignatures once = .ok twice :=
    ⟨_, rfl, rfl, _, rfl⟩
  have swaps : Remote.replace "https://slsa.dev/provenance/v0.2" emptySignatures
      sampleAttestation = .ok (.ok _) :=
    replace_eq_ok.mpr ⟨[], rfl, fun sig inside => absurd inside List.not_mem_nil, rfl⟩
  refine ⟨once, twice, _, appended, replaced, ?_, swaps, ?_⟩
  · rw [coherent_replaceSignatures_iff replaced, getOnce]
    intro nothing
    exact absurd (Except.ok.inj nothing) (List.cons_ne_nil _ _)
  · rw [coherent_replace_iff coherent_empty rfl swaps]
    rintro ⟨first, rest, listIs, -⟩
    exact absurd listIs.symm (List.cons_ne_nil _ _)

/-- A run of one append to the empty list, which is verified as it is after an upload. -/
theorem list_agrees_with_image_once :
    ∃ once layers, appendSignatures emptySignatures [sampleAttestation] = .ok once ∧
      Coherent once ∧ once.image.published = .ok layers ∧ ∀ p h co,
        verifyList p once h co = verifyList p (Oci.sigs sampleLoader (.ofStored layers)) h co := by
  have survives : Survives sampleLoader sampleAttestation :=
    survives_newSignature sampleLoader_empty plain_nothing sampleAttestation_built
  have step (kind : OciSignature → Prop) (given : kind sampleAttestation) :
      ∃ once, appendSignatures emptySignatures [sampleAttestation] = .ok once ∧
        AgreeingStep kind emptySignatures once :=
    ⟨_, rfl, .append [sampleAttestation],
      fun sig inside => List.mem_singleton.mp inside ▸ given, trivial, rfl⟩
  have ⟨once, appended, usable⟩ := step (Usable sampleLoader) ⟨readable_static _, survives⟩
  have ⟨_, again, readable⟩ := step Readable (readable_static _)
  cases appended.symm.trans again
  have empty : Started sampleLoader emptySignatures := .inl rfl
  have ⟨coherent, verified, _⟩ := list_agrees_with_image empty (.single readable)
  have ⟨_, layers, _, published, _⟩ := coherent
  exact ⟨once, layers, appended, coherent, published, verified (.single usable) layers published⟩

end Cosign.Verif
