import Cosign.Go.Proc
import Cosign.Remote.Registry

/-!
# Walking over a signed entity

An index lists manifests, which are images or indexes again. `walk.SignedEntity` is `mutate.Map`
with a callback that returns the entity it is given, so that nothing is filtered or rebuilt. The
walk reads a manifest before it goes into it, and stops at an unknown media type.
-/
namespace Cosign.Remote

open Cosign.Go Cosign.Oci

/-- An entity of a registry with the manifests below it. -/
inductive EntityTree where
  | image (digest : Digest)
  | index (digest : Digest) (manifests : List EntityTree)
  /-- A manifest of another media type. -/
  | other (digest : Digest) (mediaType : String)

namespace EntityTree

/-- `Digest()`. -/
def digest : EntityTree → Digest
  | .image digest => digest
  | .index digest _ => digest
  | .other digest _ => digest

mutual

/-- The entity and everything below it, an index before its manifests. -/
def parts : EntityTree → List EntityTree
  | .image digest => [.image digest]
  | .index digest manifests => .index digest manifests :: partsOf manifests
  | .other _ _ => []

/-- The entities of a list of manifests. -/
def partsOf : List EntityTree → List EntityTree
  | [] => []
  | manifest :: rest => manifest.parts ++ partsOf rest

end

end EntityTree

/-- The error of `SignedEntity` and `Map` on a media type they do not know. -/
def unknownMimeType (mediaType : String) : GoError := ⟨"unknown mime type: " ++ mediaType⟩

section

variable {σ : Type} (read : Proc σ Unit) (fn : EntityTree → Proc σ Unit)

mutual

/-- `walk.SignedEntity`. `read` is the call for the manifest of an index. -/
def walkEntity : EntityTree → Proc σ Unit
  | .image digest => fn (.image digest)
  | .index digest manifests => do
    fn (.index digest manifests)
    read
    walkManifests manifests
  | .other _ mediaType => .fail (unknownMimeType mediaType)

/-- The loop of `Map` over the manifests of an index. `read` is the call `SignedImage` or
`SignedImageIndex` for one of them. -/
def walkManifests : List EntityTree → Proc σ Unit
  | [] => pure ()
  | .other _ mediaType :: _ => .fail (unknownMimeType mediaType)
  | manifest :: rest => do
    read
    walkEntity manifest
    walkManifests rest

end

end

end Cosign.Remote
