import Cosign.Oci.Mutate
import Cosign.Verify.Platform

/-!
# Duplicates and replacements

The implementations of `DupeDetector` and `ReplaceOp` that the commands use. The detector looks for
a published signature by the same key over the same payload that has all annotations of the new one.
The replace operation drops the attestations of the given predicate type and puts the new one first;
only the `Get` of its result says so.
-/
namespace Cosign.Remote

open Cosign.Go Cosign.Encoding Cosign.Oci Cosign.Verify

/-- The loop over the new annotations: all but the signature are among the existing ones. -/
def annotationsKept (newAnnotations existing : GoMap String) : Bool :=
  newAnnotations.entries.all fun entry =>
    entry.1 == signatureAnnotationKey || existing.lookup entry.1 == some entry.2

/-- One round of `LayerLoop`: whether an existing signature makes the new one redundant. -/
def isDuplicate (verifier : Verifier) (newDigest : Hash) (newMediaType : String)
    (newAnnotations : GoMap String) (uncompressed : Except GoError Bytes) (sig : OciSignature) :
    Except GoError Bool :=
  match sig.annotations, sig.layer.digest, sig.layer.mediaType, sig.base64Signature with
  | .ok existing, .ok digest, .ok mediaType, .ok existingSignature =>
    if annotationsKept newAnnotations existing ∧ digest = newDigest ∧ mediaType = newMediaType ∧
        existingSignature ≠ "" then
      match Base64.stdDecode existingSignature with
      | none => .ok false
      | some uploadedSig =>
        match uncompressed with
        | .error err => .error err
        | .ok message => .ok (verifier.verifySignature uploadedSig message).isNone
    else .ok false
  | _, _, _, _ => .ok false

/-- `LayerLoop`: the first existing signature that makes the new one redundant. -/
def layerLoop (duplicate : OciSignature → Except GoError Bool) :
    List OciSignature → Except GoError (Option OciSignature)
  | [] => .ok none
  | sig :: rest => do
    if ← duplicate sig then .ok (some sig) else layerLoop duplicate rest

/-- `dd.Find`. -/
def find (verifier : Verifier) (sigImage : Signatures) (newSig : OciSignature) :
    Except GoError (Option OciSignature) := do
  let newDigest ← newSig.layer.digest
  let newMediaType ← newSig.layer.mediaType
  let newAnnotations ← newSig.annotations
  let sigs ← sigImage.get
  layerLoop (isDuplicate verifier newDigest newMediaType newAnnotations newSig.layer.uncompressed)
    sigs

/-- `NewDupeDetector`. -/
def newDupeDetector (verifier : Verifier) : DupeDetector := ⟨find verifier⟩

/-- The predicate type that `Replace` reads from an attestation. -/
def predicateType (s : OciSignature) : Call (Except GoError Json) :=
  match s.payload with
  | .error err => .ok (.error ⟨"could not get payload: " ++ err.message⟩)
  | .ok p =>
    match Encoding.unmarshal fillMap p with
    | .error err => .ok (.error ⟨"unmarshal payload data: " ++ err.message⟩)
    | .ok signaturePayload =>
      match mapValue signaturePayload "payload" with
      | none => .ok (.error ⟨"could not find 'payload' in payload data"⟩)
      | some val => do
        let text ← assertString val
        match Base64.stdDecode text with
        | none => .ok (.error ⟨"could not decode 'payload': " ++ corruptInput.message⟩)
        | some decodedPayload =>
          match Encoding.unmarshal fillMap decodedPayload with
          | .error err => .ok (.error ⟨"unmarshal payloadData: " ++ err.message⟩)
          | .ok payloadData =>
            match mapValue payloadData "predicateType" with
            | none => .ok (.error ⟨"could not find 'predicateType' in payload data"⟩)
            | some val => .ok (.ok val)

/-- `r.predicateURI == val`: a string and an `interface{}` are equal when it holds that string. -/
def isPredicate (predicateURI : String) : Json → Bool
  | .str text => predicateURI == text
  | _ => false

/-- The loop of `Replace`: the attestations that stay. -/
def keepOthers (predicateURI : String) :
    List OciSignature → Call (Except GoError (List OciSignature))
  | [] => .ok (.ok [])
  | s :: rest => do
    match ← predicateType s with
    | .error err => .ok (.error err)
    | .ok val =>
      match ← keepOthers predicateURI rest with
      | .error err => .ok (.error err)
      | .ok kept => .ok (.ok (if isPredicate predicateURI val then kept else s :: kept))

/-- `r.Replace`: `replaceOCISignatures` overrides `Get` and embeds the old list. -/
def replace (predicateURI : String) (signatures : Signatures) (o : OciSignature) :
    Call (Except GoError Signatures) :=
  match signatures.get with
  | .error err => .ok (.error err)
  | .ok sigs => do
    match ← keepOthers predicateURI sigs with
    | .error err => .ok (.error err)
    | .ok kept => .ok (.ok { signatures with get := .ok (o :: kept) })

/-- `NewReplaceOp`. -/
def newReplaceOp (predicateURI : String) : ReplaceOp := ⟨replace predicateURI⟩

end Cosign.Remote
