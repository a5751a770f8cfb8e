import Cosign.Oci.Signature

/-!
# Images that hold signatures

An `oci.Signature` is a `v1.Layer` with accessors, and an `oci.Signatures` is a `v1.Image` with a
method `Get`; nothing in the types makes `Get` agree with the layers. An image is the list of
descriptors in its manifest, each with the layer that `LayerByDigest` finds for it, whose bytes are
those with its digest.
-/
namespace Cosign.Oci

open Cosign.Go Cosign.Encoding

/-- `v1.Layer`, by what the methods that are called return. -/
structure Layer where
  digest : Except GoError Hash
  mediaType : Except GoError String
  /-- `Compressed()`, read to its end. -/
  compressed : Except GoError Bytes
  /-- `Uncompressed()`, read to its end. -/
  uncompressed : Except GoError Bytes

/-- `v1.Descriptor` of a layer; nil annotations are empty. -/
structure Descriptor where
  /-- Media type of the layer. -/
  mediaType : String
  /-- Digest of the layer. -/
  digest : Hash
  /-- Annotations of the layer. -/
  annotations : GoMap String

/-- A value of the `oci.Signature` interface with its layer. Every implementation reads its
payload from its own compressed bytes. -/
structure OciSignature extends Signature where
  /-- The methods of `v1.Layer`. -/
  layer : Layer
  /-- The payload is the content of the layer. -/
  payload_eq : payload = layer.compressed

/-- `v1.Image`, by its manifest. -/
structure Image where
  /-- The layers that `Manifest()` lists, each with the result of `LayerByDigest`. -/
  manifest : Except GoError (List (Descriptor × Except GoError Layer))

/-- A value of the `oci.Signatures` interface. -/
structure Signatures where
  /-- The methods of `v1.Image`. -/
  image : Image
  get : Except GoError (List OciSignature)

/-- `mutate.Addendum`. -/
structure Addendum where
  /-- The layer to add. -/
  layer : Layer
  /-- Annotations of its descriptor. -/
  annotations : GoMap String

namespace Addendum

/-- The descriptor that the manifest gets for an added layer. -/
def descriptor (add : Addendum) : Except GoError Descriptor := do
  let digest ← add.layer.digest
  let mediaType ← add.layer.mediaType
  .ok ⟨mediaType, digest, add.annotations⟩

/-- The manifest entry of an added layer. -/
def entry (add : Addendum) : Except GoError (Descriptor × Except GoError Layer) := do
  let desc ← add.descriptor
  .ok (desc, .ok add.layer)

end Addendum

/-- A layer as a registry stores it: its descriptor and its bytes. -/
structure StoredLayer where
  /-- The descriptor in the manifest. -/
  descriptor : Descriptor
  /-- The blob with the descriptor's digest. -/
  content : Bytes

/-- The layer of a downloaded image. -/
def StoredLayer.layer (stored : StoredLayer) : Layer where
  digest := .ok stored.descriptor.digest
  mediaType := .ok stored.descriptor.mediaType
  compressed := .ok stored.content
  uncompressed := .ok stored.content

namespace Image

/-- `empty.Image`: no layers. -/
def empty : Image := ⟨.ok []⟩

/-- `mutate.Append`: without addenda it returns its base. -/
def append (base : Image) : List Addendum → Image
  | [] => base
  | first :: rest =>
    ⟨do
      let layers ← base.manifest
      let added ← (first :: rest).mapM Addendum.entry
      .ok (layers ++ added)⟩

/-- The image that `remote.Image` returns for a stored manifest. -/
def ofStored (layers : List StoredLayer) : Image :=
  ⟨.ok (layers.map fun stored => (stored.descriptor, .ok stored.layer))⟩

/-- One layer as `remote.Write` uploads it. -/
def upload (entry : Descriptor × Except GoError Layer) : Except GoError StoredLayer := do
  let layer ← entry.2
  let content ← layer.compressed
  .ok ⟨entry.1, content⟩

/-- What `remote.Write` puts into the registry: the manifest and the blob of each layer. -/
def published (image : Image) : Except GoError (List StoredLayer) := do
  let layers ← image.manifest
  layers.mapM upload

end Image

/-- `signature.New`. -/
def newSigLayer (pem : PemLoader) (layer : Layer) (desc : Descriptor) : OciSignature where
  toSignature := SigLayer.signature pem ⟨layer.compressed, desc.digest, desc.annotations⟩
  layer := layer
  payload_eq := rfl

/-- `s.Get()` of a downloaded image. -/
def sigsGet (pem : PemLoader) (image : Image) : Except GoError (List OciSignature) := do
  let layers ← image.manifest
  layers.mapM fun entry => do
    let layer ← entry.2
    .ok (newSigLayer pem layer entry.1)

/-- The `sigs` that `Signatures` returns for a tag that exists. -/
def sigs (pem : PemLoader) (image : Image) : Signatures := ⟨image, sigsGet pem image⟩

/-- `empty.Signatures()`. -/
def emptySignatures : Signatures := ⟨.empty, .ok []⟩

end Cosign.Oci
