import Cosign.Oci.Mutate

/-!
# Entities with attachments

Every attach operation of package `mutate` wraps the entity in a `signedImage` or a
`signedImageIndex`, which override `Signatures`, `Attestations` and `Attachment`: the lists are
built on those of the wrapped entity, while a file is looked up in a map of the wrapper, which the
operation for files gives one entry and the others none.
-/
namespace Cosign.Oci

open Cosign.Go Cosign.Encoding

/-- An `oci.File`, by what its own methods return. -/
structure File where
  fileMediaType : Except GoError String
  payload : Except GoError Bytes

/-- An `oci.SignedEntity` with all its methods. -/
structure FiledEntity extends SignedEntity where
  /-- `Attachment(name)`. -/
  attachment : String → Except GoError File

section

variable (quote : String → String)

/-- The error of `Attachment`; `quote` is what the verb `%q` prints. -/
def attachmentNotFound (attName : String) : GoError :=
  ⟨"attachment " ++ quote attName ++ " not found"⟩

/-- `si.Attachment(attName)` and `sii.Attachment(attName)`. -/
def wrapperAttachment (attachments : GoMap File) (attName : String) : Except GoError File :=
  match attachments.lookup attName with
  | some f => .ok f
  | none => .error (attachmentNotFound quote attName)

/-- `AttachFileToEntity`. -/
def attachFileToEntity (se : FiledEntity) (name : String) (f : File) (opts : List SignOption) :
    FiledEntity where
  toSignedEntity := attach se.toSignedEntity none none (makeSignOpts opts)
  attachment := wrapperAttachment quote (AList.singleton name f)

/-- An attach operation without options. -/
inductive AttachOp where
  /-- `AttachSignatureToEntity`. -/
  | signature (sig : OciSignature)
  /-- `AttachAttestationToEntity`. -/
  | attestation (att : OciSignature)
  /-- `AttachFileToEntity`. -/
  | file (name : String) (f : File)

/-- The entity that an operation returns; signatures and attestations come with no files. -/
def AttachOp.run (se : FiledEntity) : AttachOp → FiledEntity
  | .signature sig =>
    ⟨attachSignatureToEntity se.toSignedEntity sig [], wrapperAttachment quote ∅⟩
  | .attestation att =>
    ⟨attachAttestationToEntity se.toSignedEntity att [], wrapperAttachment quote ∅⟩
  | .file name f => attachFileToEntity quote se name f []

/-- One operation after another. -/
def attachAll (se : FiledEntity) (ops : List AttachOp) : FiledEntity :=
  ops.foldl (AttachOp.run quote) se

end

end Cosign.Oci
