import Cosign.Oci.Map

/-!
# The calls of a map over an entity

The reference for `mutate.Map` and `walk.SignedEntity` relates an entity to the calls that a map
over it makes, with their answers, and to what it returns; the callback does not occur in it. `Maps`
is given by the number of nested indexes, since the callback decides how deep a map goes.
-/
namespace Cosign.Spec

open Cosign.Go Cosign.Oci

/-- Calls of the callback, with their answers. -/
abbrev Trace : Type := List (Exchange Visit Reply)

/-! ## Entities that can be read -/

/-- The entity that a listed manifest stands for: its media type is known and the accessor for it
succeeds. -/
def listedEntity (manifest : Manifest SignedIndex) : Option Entity :=
  match manifestKind manifest.desc.mediaType with
  | some .index => manifest.signedImageIndex.toOption.map .index
  | some .image => manifest.signedImage.toOption.map .image
  | none => none

/-- What a descriptor is computed from can be read. -/
structure Legible (handle : Handle) : Prop where
  size : ∃ size, handle.size = .ok size
  digest : ∃ digest, handle.digest = .ok digest
  mediaType : ∃ mediaType, handle.mediaType = .ok mediaType

/-- A tree of images and indexes with known media types in which everything can be read. -/
inductive Sound : Entity → Prop where
  | image {si : Handle} (legible : Legible si) : Sound (.image si)
  /-- An index whose manifests stand for such trees. -/
  | index {handle : Handle} {im : IndexHeader} {manifests : List (Manifest SignedIndex)}
    (legible : Legible handle)
    (known : ∀ manifest ∈ manifests, ∃ se, listedEntity manifest = some se)
    (below : ∀ manifest ∈ manifests, ∀ se, listedEntity manifest = some se → Sound se) :
    Sound (.index (.mk handle (.ok (im, manifests))))

/-- No more than `depth` indexes are nested in an entity; an image counts as one. -/
def Fits : Nat → Entity → Prop
  | 0, _ => False
  | _ + 1, .image _ => True
  | depth + 1, .index sii => ∀ im manifests, sii.indexManifest = .ok (im, manifests) →
    ∀ manifest ∈ manifests, ∀ x, listedEntity manifest = some (.index x) → Fits depth (.index x)

/-! ## The index that is built for changed children -/

/-- A child that is not filtered, with the descriptor under which the original index lists the child
in whose place it stands. -/
structure Survivor where
  /-- The descriptor in the original index. -/
  original : ManifestDescriptor
  /-- What stands in the place of the child. -/
  entity : Entity

/-- A manifest lists a survivor: it has the media type, URLs, annotations and platform of the
original manifest, and the digest and size of the entity, which is found by its digest unless
another one of its kind has the same digest. -/
structure ListedAs (kept : List Survivor) (child : Survivor) (manifest : Manifest SignedIndex) :
    Prop where
  mediaType : manifest.desc.mediaType = child.original.mediaType
  urls : manifest.desc.urls = child.original.urls
  annotations : manifest.desc.annotations = child.original.annotations
  platform : manifest.desc.platform = child.original.platform
  digest : child.entity.handle.digest = .ok manifest.desc.digest
  size : child.entity.handle.size = .ok manifest.desc.size
  /-- The entity, with everything that is attached to it. -/
  found : (∀ other ∈ kept, other.entity.kind = child.entity.kind →
      other.entity.handle.digest = child.entity.handle.digest → other.entity = child.entity) →
    listedEntity manifest = some child.entity

/-- An index with a given header that lists exactly some survivors, in their order. -/
def Rebuilt (im : IndexHeader) (kept : List Survivor) (sii : SignedIndex) : Prop :=
  ∃ manifests, sii.indexManifest = .ok (im, manifests) ∧
    List.Forall₂ (ListedAs kept) kept manifests

/-- The children that are not filtered. -/
def survivors : List (Manifest SignedIndex) → List (Option Entity) → List Survivor
  | manifest :: manifests, some se :: results =>
    ⟨manifest.desc, se⟩ :: survivors manifests results
  | _ :: manifests, none :: results => survivors manifests results
  | _, _ => []

/-- What a map returns for a child is the child itself. -/
def Stays (manifest : Manifest SignedIndex) (result : Option Entity) : Prop :=
  ∃ se x, result = some se ∧ listedEntity manifest = some x ∧
    x.handle.address = se.handle.address

/-- No child was replaced or filtered. -/
def Intact (manifests : List (Manifest SignedIndex)) (results : List (Option Entity)) : Prop :=
  List.Forall₂ Stays manifests results

/-! ## Maps -/

section

variable (build : Nat → IndexHeader → List Survivor → SignedIndex)
  (nested : Nat → SignedIndex → Trace → Option Entity → Prop)

/-- The calls for a listed manifest and what stands in its place afterwards. -/
inductive MapsChild (calls : Nat) (manifest : Manifest SignedIndex) :
    Trace → Option Entity → Prop where
  /-- An index is mapped. -/
  | index {x : SignedIndex} {trace : Trace} {result : Option Entity}
    (listed : listedEntity manifest = some (.index x)) (maps : nested calls x trace result) :
    MapsChild calls manifest trace result
  /-- The callback is called on an image. -/
  | image {x : Handle} (listed : listedEntity manifest = some (.image x)) (reply : Reply) :
    MapsChild calls manifest [⟨.child x, reply⟩] reply.entity

/-- The calls for a list of manifests, one after the other. -/
inductive MapsChildren : Nat → List (Manifest SignedIndex) → Trace → List (Option Entity) →
    Prop where
  /-- No manifest. -/
  | nil (calls : Nat) : MapsChildren calls [] [] []
  /-- A manifest and then the others. -/
  | cons {calls : Nat} {manifest : Manifest SignedIndex}
    {manifests : List (Manifest SignedIndex)} {trace traces : Trace} {result : Option Entity}
    {results : List (Option Entity)} (first : MapsChild nested calls manifest trace result)
    (rest : MapsChildren (calls + trace.length) manifests traces results) :
    MapsChildren calls (manifest :: manifests) (trace ++ traces) (result :: results)

/-- The calls for an entity and what a map over it returns: the entity is visited before its
children, and an index with a changed child once more after them. -/
inductive MapsEntity (calls : Nat) (se : Entity) : Trace → Option Entity → Prop where
  | filtered : MapsEntity calls se [⟨.before se, ⟨none, none⟩⟩] none
  /-- The children are skipped; what is returned takes the place of the entity. -/
  | skipped (kept : Option Entity) (err : MapError) (skips : err.skips = true) :
    MapsEntity calls se [⟨.before se, ⟨kept, some err⟩⟩] kept
  /-- An image takes the place of the entity. -/
  | image (si : Handle) :
    MapsEntity calls se [⟨.before se, ⟨some (.image si), none⟩⟩] (some (.image si))
  /-- An index takes the place of the entity, and its children stay as they are. -/
  | unchanged {sii : SignedIndex} {im : IndexHeader} {manifests : List (Manifest SignedIndex)}
    {trace : Trace} {results : List (Option Entity)}
    (contents : sii.indexManifest = .ok (im, manifests))
    (each : MapsChildren nested (calls + 1) manifests trace results)
    (intact : Intact manifests results) :
    MapsEntity calls se (⟨.before se, ⟨some (.index sii), none⟩⟩ :: trace) (some (.index sii))
  /-- An index takes the place of the entity and its children change: the callback decides what
  becomes of the index that lists the new ones. -/
  | rebuilt {sii : SignedIndex} {im : IndexHeader} {manifests : List (Manifest SignedIndex)}
    {trace : Trace} {results : List (Option Entity)} {new : SignedIndex}
    (contents : sii.indexManifest = .ok (im, manifests))
    (each : MapsChildren nested (calls + 1) manifests trace results)
    (changed : ¬Intact manifests results)
    (built : new = build (calls + 1 + trace.length) im (survivors manifests results))
    (lists : Rebuilt im (survivors manifests results) new) (reply : Reply) :
    MapsEntity calls se
      (⟨.before se, ⟨some (.index sii), none⟩⟩ :: (trace ++ [⟨.after new, reply⟩])) reply.entity

/-- **The reference**: a map over an entity that meets no more than `depth` nested indexes, after a
number of earlier calls, makes the calls of a trace and returns an entity or nil. -/
def Maps : Nat → Nat → Entity → Trace → Option Entity → Prop
  | 0, _, _, _, _ => False
  | depth + 1, calls, se, trace, result =>
    MapsEntity build (fun calls x => Maps depth calls (.index x)) calls se trace result

end

/-! ## Walks -/

section

variable (nested : SignedIndex → Trace → Prop)

/-- The calls for a listed manifest. -/
inductive WalksChild (manifest : Manifest SignedIndex) : Trace → Prop where
  /-- An index is walked. -/
  | index {x : SignedIndex} {trace : Trace} (listed : listedEntity manifest = some (.index x))
    (walks : nested x trace) : WalksChild manifest trace
  /-- The callback is called on an image. -/
  | image {x : Handle} (listed : listedEntity manifest = some (.image x)) (reply : Reply) :
    WalksChild manifest [⟨.child x, reply⟩]

/-- The calls for a list of manifests, one after the other. -/
inductive WalksChildren : List (Manifest SignedIndex) → Trace → Prop where
  /-- No manifest. -/
  | nil : WalksChildren [] []
  /-- A manifest and then the others. -/
  | cons {manifest : Manifest SignedIndex} {manifests : List (Manifest SignedIndex)}
    {trace traces : Trace} (first : WalksChild nested manifest trace)
    (rest : WalksChildren manifests traces) :
    WalksChildren (manifest :: manifests) (trace ++ traces)

/-- The calls for an entity: the entity itself, and unless its children are skipped then these. -/
inductive WalksEntity : Entity → Trace → Prop where
  | image (si : Handle) (reply : Reply) :
    WalksEntity (.image si) [⟨.before (.image si), reply⟩]
  /-- An index whose children are skipped. -/
  | skipped (sii : SignedIndex) (reply : Reply) (err : MapError) (skips : reply.err = some err) :
    WalksEntity (.index sii) [⟨.before (.index sii), reply⟩]
  /-- An index and its children. -/
  | index {sii : SignedIndex} {im : IndexHeader} {manifests : List (Manifest SignedIndex)}
    {trace : Trace} {reply : Reply} (contents : sii.indexManifest = .ok (im, manifests))
    (continues : reply.err = none) (each : WalksChildren nested manifests trace) :
    WalksEntity (.index sii) (⟨.before (.index sii), reply⟩ :: trace)

/-- **The reference for walks**: the calls on an entity with at most `depth` nested indexes, each
entity once and an index before its children, which are left out if it is skipped. -/
def Walks : Nat → Entity → Trace → Prop
  | 0, _, _ => False
  | depth + 1, se, trace => WalksEntity (fun x => Walks depth (.index x)) se trace

end

end Cosign.Spec
