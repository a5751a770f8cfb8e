import Cosign.Encoding.Unmarshal
import Cosign.Tuf.Client
import Cosign.Verify.Platform

/-!
# Targets by their custom metadata

The custom part of the targets metadata can say what a target is used for. `GetTargetsByMeta`
collects the targets of one use. A target whose custom part cannot be read is skipped; one of the
use that cannot be verified ends the call. Only if none was collected are the fallback names tried,
of which those that cannot be verified are skipped.
-/
namespace Cosign.Tuf

open Cosign.Go Cosign.Encoding Cosign.Verify

/-- `UsageKind`. -/
inductive UsageKind where
  /-- `UnknownUsage`, which is also the zero value. -/
  | unknown
  | fulcio
  | rekor
  | ctfe
  deriving DecidableEq, Repr

/-- `unicode.ToLower`, as far as it can give an ASCII letter: the capital letters, the dotted
capital I and the Kelvin sign. -/
def lowerRune (char : Char) : Char :=
  if 65 ≤ char.toNat ∧ char.toNat ≤ 90 then Char.ofNat (char.toNat + 32)
  else if char.toNat = 0x130 then 'i'
  else if char.toNat = 0x212A then 'k'
  else char

/-- `UnmarshalText` of a kind that is given by its names in lower case. -/
def unmarshalKind {α : Type} (type : String) (kinds : List (String × α)) (text : String) :
    Except GoError α :=
  match kinds.find? fun kind => (runes text).map lowerRune = runes kind.1 with
  | some kind => .ok kind.2
  | none => .error ⟨"error while unmarshalling, " ++ type ++ "=" ++ text ++ " not valid"⟩

/-- `UnmarshalText` of a usage. -/
def UsageKind.unmarshalText : String → Except GoError UsageKind :=
  unmarshalKind "UsageKind"
    [("unknown", .unknown), ("fulcio", .fulcio), ("rekor", .rekor), ("ctfe", .ctfe)]

/-- `UnmarshalText` of a status. -/
def statusUnmarshalText : String → Except GoError StatusKind :=
  unmarshalKind "StatusKind" [("unknown", .unknown), ("active", .active), ("expired", .expired)]

/-- Store a field that has an `UnmarshalText`. -/
def storeText {σ α : Type} (unmarshalText : String → Except GoError α) (set : σ → α → σ)
    (filled : σ) : Json → Except GoError σ
  | .null => .ok filled
  | .str text => (unmarshalText text).map (set filled)
  | _ => .error (typeError "encoding.TextUnmarshaler")

/-- `customMetadata`. -/
structure CustomMetadata where
  usage : UsageKind
  status : StatusKind
  deriving DecidableEq, Repr

/-- Struct tags of `customMetadata`. -/
def CustomMetadata.fields : List (StructField CustomMetadata) :=
  [⟨"usage", storeText UsageKind.unmarshalText fun filled usage => { filled with usage }⟩,
    ⟨"status", storeText statusUnmarshalText fun filled status => { filled with status }⟩]

/-- Struct tags of `sigstoreCustomMetadata`, of which the only field is held here. -/
def sigstoreFields : List (StructField CustomMetadata) :=
  [⟨"sigstore", fillStruct "tuf.customMetadata" CustomMetadata.fields⟩]

/-- `json.Unmarshal` into a `sigstoreCustomMetadata`. -/
def unmarshalCustom : Bytes → Except GoError CustomMetadata :=
  unmarshal (fillStruct "tuf.sigstoreCustomMetadata" sigstoreFields ⟨.unknown, .unknown⟩)

section

variable (p : TufPlatform) (t : TUF) (custom : String → Option Bytes) (usage : UsageKind)

/-- One round of the loop over the targets; `custom` has the custom part of each target. -/
def matchTarget (matchedTargets : List TargetFile) (entry : TargetEntry) :
    Except GoError (List TargetFile) :=
  match custom entry.1 with
  | none => .ok matchedTargets
  | some text =>
    match unmarshalCustom text with
    | .error _ => .ok matchedTargets
    | .ok scm =>
      if scm.usage = usage then
        match t.getTarget p entry.1 with
        | .error err => .error (err.wrap "error getting target by usage")
        | .ok target => .ok (matchedTargets ++ [⟨target, scm.status⟩])
      else .ok matchedTargets

/-- One round of the loop over the fallbacks. -/
def matchFallback (matchedTargets : List TargetFile) (fallback : String) : List TargetFile :=
  match t.getTarget p fallback with
  | .error _ => matchedTargets
  | .ok target => matchedTargets ++ [⟨target, .active⟩]

/-- `t.GetTargetsByMeta(usage, fallbacks)`. The failure of `t.client.Targets()` is given, and the
order that the loop over the targets takes. -/
def TUF.getTargetsByMeta (failure : Option GoError) (order : RangeOrder TargetFileMeta)
    (fallbacks : List String) : Except GoError (List TargetFile) :=
  match failure with
  | some err => .error (err.wrap "error getting targets")
  | none => do
    let targets := order.arrange t.store.localMeta.targets
    let matchedTargets ← targets.entries.foldlM (matchTarget p t custom usage) []
    let matchedTargets :=
      if matchedTargets.isEmpty then fallbacks.foldl (matchFallback p t) matchedTargets
      else matchedTargets
    if matchedTargets.isEmpty then
      .error ⟨"no matching targets by custom metadata, fallbacks not found: " ++
        ", ".intercalate fallbacks⟩
    else .ok matchedTargets

end

end Cosign.Tuf
