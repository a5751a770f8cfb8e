import Cosign.Go.Callback
import Cosign.Oci.Mutate
import Cosign.Remote.Tree

/-!
# Mapping over a signed entity

`mutate.Map` calls a function on an entity and on everything below it. The function may keep an
entity, replace it or filter it; an index with changed children is built anew and handed to the
function once more. `walk.SignedEntity` is `Map` with a function that keeps everything.

Entities are compared by their address; what `AppendManifests` builds has an address of its own, and
is modelled by the manifest that it computes. A function may put ever deeper indexes in the place of
what it is given, and `Map` then recurses until the stack is full: `mapEntity` takes the number of
frames for which there is room.
-/
namespace Cosign.Oci

open Cosign.Go Cosign.Remote

/-- The address of an entity. -/
inductive Address where
  /-- That of an entity which was loaded or which the callback made. -/
  | given (number : Nat)
  /-- That of an index which `Map` built after so many calls. -/
  | built (calls : Nat)
  deriving DecidableEq, Repr

/-- What an entity says of itself: the methods that images and indexes have in common. -/
structure Handle where
  address : Address
  size : Except GoError Int
  digest : Except GoError Hash
  mediaType : Except GoError String
  signatures : Call (Except GoError Signatures)
  attestations : Call (Except GoError Signatures)

/-- `v1.Platform`. -/
structure ImagePlatform where
  architecture : String
  os : String
  /-- `OSVersion`. -/
  osVersion : String
  /-- `OSFeatures`. -/
  osFeatures : List String
  variant : String
  features : List String
  deriving DecidableEq, Repr

/-- `v1.Descriptor` of a manifest. Nil slices and maps are empty. -/
structure ManifestDescriptor extends Descriptor where
  size : Int
  urls : List String
  platform : Option ImagePlatform

/-- What an index manifest says beside its list of manifests. -/
structure IndexHeader where
  mediaType : String
  annotations : GoMap String

/-- A manifest that an index lists, with what the two accessors of the index return for its
digest. -/
structure Manifest (index : Type) where
  desc : ManifestDescriptor
  /-- `SignedImage(desc.Digest)`. -/
  signedImage : Except GoError Handle
  /-- `SignedImageIndex(desc.Digest)`. -/
  signedImageIndex : Except GoError index

/-- An `oci.SignedImageIndex`; the last field is `IndexManifest()`. -/
inductive SignedIndex where
  /-- The index. -/
  | mk (handle : Handle)
    (indexManifest : Except GoError (IndexHeader × List (Manifest SignedIndex)))

/-- An `oci.SignedEntity`. -/
inductive Entity where
  /-- An `oci.SignedImage`. -/
  | image (si : Handle)
  /-- An `oci.SignedImageIndex`. -/
  | index (sii : SignedIndex)

/-- What an index says of itself. -/
def SignedIndex.handle : SignedIndex → Handle
  | .mk handle _ => handle

/-- `sii.IndexManifest()`. -/
def SignedIndex.indexManifest :
    SignedIndex → Except GoError (IndexHeader × List (Manifest SignedIndex))
  | .mk _ indexManifest => indexManifest

namespace Entity

/-- What an entity says of itself. -/
def handle : Entity → Handle
  | .image si => si
  | .index sii => sii.handle

/-- Image or index. -/
def kind : Entity → EntityKind
  | .image _ => .image
  | .index _ => .index

end Entity

/-- The `switch` of `Map` on a media type. -/
def manifestKind (mediaType : String) : Option EntityKind :=
  if mediaType = "application/vnd.oci.image.index.v1+json" ∨
      mediaType = "application/vnd.docker.distribution.manifest.list.v2+json" then
    some .index
  else if mediaType = "application/vnd.oci.image.manifest.v1+json" ∨
      mediaType = "application/vnd.docker.distribution.manifest.v2+json" then
    some .image
  else none

/-! ## New indexes -/

/-- `IndexAddendum`, with the fields of the descriptor that `Map` sets. -/
structure IndexAddendum where
  add : Entity
  mediaType : String
  urls : List String
  annotations : GoMap String
  platform : Option ImagePlatform

/-- The addendum of `Map` for an entity in the place of a listed one. -/
def IndexAddendum.of (desc : ManifestDescriptor) (se : Entity) : IndexAddendum :=
  ⟨se, desc.mediaType, desc.urls, desc.annotations, desc.platform⟩

/-- The descriptor that is computed for an addendum: size and digest are those of the entity, and
what the addendum sets comes from there. The media type of the entity is read, too. -/
def IndexAddendum.descriptor (addendum : IndexAddendum) : Except GoError ManifestDescriptor := do
  let size ← addendum.add.handle.size
  let digest ← addendum.add.handle.digest
  let mediaType ← addendum.add.handle.mediaType
  .ok { mediaType := if addendum.mediaType = "" then mediaType else addendum.mediaType
        digest, annotations := addendum.annotations, size, urls := addendum.urls
        platform := addendum.platform }

/-- The error for a digest that is not in the index; its base is `empty.Index`. -/
def emptyIndex : GoError := ⟨"empty index"⟩

/-- The loop of `i.SignedImage(h)` and `i.SignedImageIndex(h)`: the first addendum of the kind with
the digest. -/
def firstOfKind (kind : EntityKind) (h : Hash) : List IndexAddendum → Except GoError Entity
  | [] => .error emptyIndex
  | addendum :: rest =>
    if addendum.add.kind = kind then do
      let d ← addendum.add.handle.digest
      if d = h then .ok addendum.add else firstOfKind kind h rest
    else firstOfKind kind h rest

/-- `i.SignedImage(h)`. -/
def wrapperSignedImage (addenda : List IndexAddendum) (h : Hash) : Except GoError Handle := do
  match ← firstOfKind .image h addenda with
  | .image si => .ok si
  | .index _ => .error emptyIndex

/-- `i.SignedImageIndex(h)`. -/
def wrapperSignedImageIndex (addenda : List IndexAddendum) (h : Hash) :
    Except GoError SignedIndex := do
  match ← firstOfKind .index h addenda with
  | .image _ => .error emptyIndex
  | .index sii => .ok sii

section

variable (checksum : IndexHeader → List ManifestDescriptor → Hash × Int)

/-- The list of manifests of a new index. -/
def wrapperManifests (addenda : List IndexAddendum) :
    Except GoError (List (Manifest SignedIndex)) :=
  addenda.mapM fun addendum => do
    let desc ← addendum.descriptor
    .ok ⟨desc, wrapperSignedImage addenda desc.digest, wrapperSignedImageIndex addenda desc.digest⟩

/-- `AppendManifests` on an empty index with the media type and the annotations of another one.
`checksum` gives the digest and the size of a manifest. -/
def appendManifests (calls : Nat) (header : IndexHeader) (addenda : List IndexAddendum) :
    SignedIndex :=
  let manifests := wrapperManifests addenda
  let summed := manifests.map fun manifests => checksum header (manifests.map Manifest.desc)
  .mk { address := .built calls
        size := summed.map Prod.snd
        digest := summed.map Prod.fst
        mediaType := .ok header.mediaType
        signatures := .ok (.ok emptySignatures)
        attestations := .ok (.ok emptySignatures) }
    (manifests.map fun manifests => (header, manifests))

/-! ## Map -/

/-- An error with what `errors.Is(err, ErrSkipChildren)` says of it. -/
structure MapError where
  err : GoError
  /-- It is `ErrSkipChildren`. -/
  skips : Bool

/-- `ErrSkipChildren`. -/
def errSkipChildren : MapError := ⟨⟨"skip child entities"⟩, true⟩

/-- Context and argument of a call of `fn`. -/
inductive Visit where
  /-- A call with the context of the before pass. -/
  | before (se : Entity)
  /-- A call on an image of an index, with a plain context. -/
  | child (si : Handle)
  /-- A call with the context of the after pass. -/
  | after (sii : SignedIndex)

/-- The entity of a call. -/
def Visit.entity : Visit → Entity
  | .before se => se
  | .child si => .image si
  | .after sii => .index sii

/-- What `Fn` and `Map` return; both may be nil. -/
structure Reply where
  entity : Option Entity
  err : Option MapError

/-- What the loop of `Map` has collected. -/
structure Progress where
  changed : Bool
  adds : List IndexAddendum

/-- The end of a round: what is returned for the child `x` is put in its place. The last step is the
type assertion on the entity. -/
def keepChild (kind : EntityKind) (desc : ManifestDescriptor) (x : Handle) (reply : Reply)
    (progress : Progress) : Call (Except MapError Progress) :=
  match reply.err, reply.entity with
  | some err, _ => .ok (.error err)
  | none, none => .ok (.ok { progress with changed := true })
  | none, some se =>
    if se.kind = kind then
      .ok (.ok ⟨progress.changed || x.address != se.handle.address,
        progress.adds ++ [.of desc se]⟩)
    else .error .typeAssertion

variable {σ : Type} (fn : Visit → σ → Reply × σ)

/-- One round of the loop of `Map`; `visit` is the recursive call. -/
def mapManifest
    (visit : SignedIndex → History σ Visit Reply → Call (Reply × History σ Visit Reply))
    (manifest : Manifest SignedIndex) (progress : Progress) (history : History σ Visit Reply) :
    Call (Except MapError Progress × History σ Visit Reply) :=
  match manifestKind manifest.desc.mediaType with
  | some .index =>
    match manifest.signedImageIndex with
    | .error err => .ok (.error ⟨err, false⟩, history)
    | .ok x => do
      let (reply, history) ← visit x history
      let kept ← keepChild .index manifest.desc x.handle reply progress
      .ok (kept, history)
  | some .image =>
    match manifest.signedImage with
    | .error err => .ok (.error ⟨err, false⟩, history)
    | .ok x => do
      let (reply, history) := history.ask fn (.child x)
      let kept ← keepChild .image manifest.desc x reply progress
      .ok (kept, history)
  | none => .ok (.error ⟨unknownMimeType manifest.desc.mediaType, false⟩, history)

/-- The loop of `Map`. -/
def mapManifests
    (visit : SignedIndex → History σ Visit Reply → Call (Reply × History σ Visit Reply)) :
    List (Manifest SignedIndex) → Progress → History σ Visit Reply →
      Call (Except MapError Progress × History σ Visit Reply)
  | [], progress, history => .ok (.ok progress, history)
  | manifest :: rest, progress, history => do
    match ← mapManifest fn visit manifest progress history with
    | (.error err, history) => .ok (.error err, history)
    | (.ok progress, history) => mapManifests visit rest progress history

/-- The stack is full. -/
def stackOverflow : Panic := .raised ⟨"stack overflow"⟩

/-- `Map`, with room for `stack` calls of it. -/
def mapEntity : Nat → Entity → History σ Visit Reply → Call (Reply × History σ Visit Reply)
  | 0, _, _ => .error stackOverflow
  | stack + 1, se, history =>
    let (reply, history) := history.ask fn (.before se)
    match reply.err, reply.entity with
    | some err, parent =>
      if err.skips then .ok (⟨parent, none⟩, history) else .ok (⟨none, some err⟩, history)
    | none, none => .ok (⟨none, none⟩, history)
    | none, some (.image si) => .ok (⟨some (.image si), none⟩, history)
    | none, some (.index sii) =>
      match sii.indexManifest with
      | .error err => .ok (⟨none, some ⟨err, false⟩⟩, history)
      | .ok (im, manifests) => do
        match ← mapManifests fn (fun x => mapEntity stack (.index x)) manifests ⟨false, []⟩
          history with
        | (.error err, history) => .ok (⟨none, some err⟩, history)
        | (.ok progress, history) =>
          if progress.changed then
            .ok (history.ask fn
              (.after (appendManifests checksum history.calls.length im progress.adds)))
          else .ok (⟨some (.index sii), none⟩, history)

/-- The callback of `walk.SignedEntity`. -/
def walkFn (fn : Visit → σ → Option MapError × σ) (visit : Visit) (state : σ) : Reply × σ :=
  match fn visit state with
  | (some err, state) => (⟨none, some err⟩, state)
  | (none, state) => (⟨some visit.entity, none⟩, state)

/-- `walk.SignedEntity`. -/
def walkSignedEntity (fn : Visit → σ → Option MapError × σ) (stack : Nat) (parent : Entity)
    (history : History σ Visit Reply) : Call (Option MapError × History σ Visit Reply) := do
  let (reply, history) ← mapEntity checksum (walkFn fn) stack parent history
  .ok (reply.err, history)

end

end Cosign.Oci
