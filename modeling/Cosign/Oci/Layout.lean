import Cosign.Oci.Mutate

/-!
# Signed entities in a layout on disk

`cosign save` writes an image or an index into a directory, with its signatures and its attestations
as two more images, which `index.json` tells apart by an annotation. A list that has nothing is not
written. Whether it has nothing is asked of `Get`, what is written is its image, and an error of
`Get` is ignored: it stands for an empty list. What is written is read back with its digest and its
blobs.
-/
namespace Cosign.Oci

open Cosign.Go Cosign.Encoding

/-- `kindAnnotation`. -/
def kindAnnotation : String := "kind"

/-- `imageAnnotation`. -/
def imageAnnotation : String := "dev.cosignproject.cosign/image"

/-- `imageIndexAnnotation`. -/
def imageIndexAnnotation : String := "dev.cosignproject.cosign/imageIndex"

/-- `sigsAnnotation`. -/
def sigsAnnotation : String := "dev.cosignproject.cosign/sigs"

/-- `attsAnnotation`. -/
def attsAnnotation : String := "dev.cosignproject.cosign/atts"

/-- A value of the `oci.Signatures` interface, with the slice that its `Get` returns: nil is told
apart from an empty one. Every implementation returns nil beside an error. -/
structure SignatureSlice where
  /-- The methods of `v1.Image`. -/
  image : Image
  digest : Except GoError Hash
  /-- `Get()`; a nil slice is `none`. -/
  slice : Except GoError (Option (List OciSignature))

/-- The list without its slice: nil has no elements. -/
def SignatureSlice.signatures (s : SignatureSlice) : Signatures :=
  ⟨s.image, s.slice.map fun sl => sl.getD []⟩

/-- An `oci.SignedImage` or `oci.SignedImageIndex` that is to be saved. A nil list is `none`. -/
structure SavedEntity where
  /-- Image or index. -/
  kind : EntityKind
  digest : Except GoError Hash
  /-- The layers of an image, read to their ends; an index has none of its own. -/
  contents : Except GoError (List StoredLayer)
  signatures : Except GoError (Option SignatureSlice)
  attestations : Except GoError (Option SignatureSlice)

/-- A manifest that `index.json` lists. -/
structure LayoutManifest where
  /-- Annotations of its descriptor. -/
  annotations : GoMap String
  /-- Digest of the manifest. -/
  digest : Hash
  layers : List StoredLayer

/-- A layout on disk, by what `index.json` lists. -/
abbrev Layout : Type := List LayoutManifest

/-- The writes of one run that fail. -/
structure SaveFaults where
  /-- Failure of `layout.Write`. -/
  write : Option GoError := none
  /-- Failure of appending the entity. -/
  entity : Option GoError := none
  /-- Failure of appending the signatures. -/
  signatures : Option GoError := none
  /-- Failure of appending the attestations. -/
  attestations : Option GoError := none

/-- `appendImage`, and `AppendIndex` with its annotation. -/
def appendImage (path : Layout) (contents : Except GoError (List StoredLayer))
    (digest : Except GoError Hash) (fault : Option GoError) (mark : String) :
    Except GoError Layout := do
  let layers ← contents
  let digest ← digest
  match fault with
  | some err => .error err
  | none => .ok (path ++ [⟨AList.singleton kindAnnotation mark, digest, layers⟩])

/-- `isEmpty`. -/
def isEmpty (s : SignatureSlice) : Bool :=
  match s.slice with
  | .ok (some _) => false
  | .ok none => true
  | .error _ => true

/-- One half of `writeSignedEntity`: a list is appended unless it is empty. -/
def appendList (path : Layout) (list : Except GoError (Option SignatureSlice))
    (fault : Option GoError) (mark getting appending : String) :
    Call (Except GoError Layout) :=
  match list with
  | .error err => .ok (.error (err.wrap getting))
  | .ok sigs => do
    let sigs ← deref sigs
    if isEmpty sigs then .ok (.ok path)
    else match appendImage path sigs.image.published sigs.digest fault mark with
      | .error err => .ok (.error (err.wrap appending))
      | .ok path => .ok (.ok path)

/-- `writeSignedEntity`. -/
def writeSignedEntity (path : Layout) (se : SavedEntity) (faults : SaveFaults) :
    Call (Except GoError Layout) := do
  match ← appendList path se.signatures faults.signatures sigsAnnotation "getting signatures"
      "appending signatures" with
  | .error err => .ok (.error err)
  | .ok path =>
    appendList path se.attestations faults.attestations attsAnnotation "getting atts"
      "appending atts"

/-- An entity is written into an empty layout under an annotation. -/
def writeSigned (se : SavedEntity) (faults : SaveFaults) (mark appending : String) :
    Call (Except GoError Layout) :=
  match faults.write with
  | some err => .ok (.error err)
  | none =>
    match appendImage [] se.contents se.digest faults.entity mark with
    | .error err => .ok (.error (err.wrap appending))
    | .ok path => writeSignedEntity path se faults

/-- `WriteSignedImage`. -/
def writeSignedImage (si : SavedEntity) (faults : SaveFaults) : Call (Except GoError Layout) :=
  writeSigned si faults imageAnnotation "appending signed image"

/-- `WriteSignedImageIndex`. -/
def writeSignedImageIndex (si : SavedEntity) (faults : SaveFaults) :
    Call (Except GoError Layout) :=
  writeSigned si faults imageIndexAnnotation "appending signed image index"

/-- The function for the kind of an entity. -/
def SavedEntity.write (se : SavedEntity) (faults : SaveFaults) : Call (Except GoError Layout) :=
  match se.kind with
  | .image => writeSignedImage se faults
  | .index => writeSignedImageIndex se faults

namespace Layout

/-- `imageByAnnotation` and `imageIndexByAnnotation`. -/
def byKind (layout : Layout) (mark : String) : Option LayoutManifest :=
  layout.find? fun m => m.annotations.lookup kindAnnotation == some mark

/-- `i.Signatures()` and `i.Attestations()`: a list that is not there is nil. -/
def listByKind (pem : PemLoader) (layout : Layout) (mark : String) :
    Option Signatures :=
  (byKind layout mark).map fun m => sigs pem (.ofStored m.layers)

end Layout

end Cosign.Oci
