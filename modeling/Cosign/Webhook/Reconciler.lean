import Cosign.Encoding.Patch
import Cosign.Go.Heap
import Cosign.Webhook.Entry
import Mathlib.Data.List.Infix

/-!
# The reconciler of image policies

`ReconcileKind` and `FinalizeKind` keep one configuration map in step with the policies. A reconcile
copies the policy, replaces references to secrets and to key management services in the copy by the
keys themselves, and publishes the entry of the result; if a key cannot be had, it removes the
entry. Keys are changed through pointers into a heap of key references.

Either call reads the map from a lister, whose answer can be stale, and then makes at most one
request to the API server; a call is described by that request and by what it returns for the answer
(`Action`). A JSON patch is represented by its operations.
-/
namespace Cosign.Webhook

open Cosign.Go Cosign.Encoding Cosign.Encoding.Patch Cosign.Verify

/-- What the lookups of one call return. -/
structure Lookups where
  /-- Failure of `TrackReference` of a secret. -/
  track : String → Option GoError
  /-- The data of a secret. -/
  secret : String → Except GoError (GoMap Bytes)
  /-- `kms.Get` of a key, by what `PublicKeyPem` returns for it. -/
  kms : String → Except GoError (Except GoError Bytes)

/-- The key references that pointers refer to. -/
abbrev KeyHeap : Type := Heap V1alpha1.KeyRef

/-- `strings.Contains`. -/
def contains (text part : String) : Bool := decide ((runes part) <:+: (runes text))

section

variable (p : WebhookPlatform) (lookups : Lookups)

/-- `inlineAndTrackSecret`, for a reference that has a secret: the only value of the secret becomes
the inline data. -/
def inlineAndTrackSecret (keyref : V1alpha1.KeyRef) : Except GoError V1alpha1.KeyRef :=
  match keyref.secretRef with
  | none => .ok keyref
  | some name =>
    match lookups.track name with
    | some err =>
      .error ⟨"failed to track changes to secret " ++ p.quote name ++ " : " ++ err.message⟩
    | none => do
      let data ← lookups.secret name
      match data.entries with
      | [] => .error ⟨"secret " ++ p.quote name ++ " contains no data"⟩
      | [⟨_, v⟩] =>
        if V1alpha1.isValidKey p v then
          .ok { keyref with data := goString v, secretRef := none }
        else .error ⟨"secret " ++ p.quote name ++ " contains an invalid public key"⟩
      | _ => .error ⟨"secret " ++ p.quote name ++
          " contains multiple data entries, only one is supported"⟩

/-- `getKMSPublicKey`. -/
def getKMSPublicKey (keyID : String) : Except GoError String := do
  let kmsSigner ← lookups.kms keyID
  let pemBytes ← kmsSigner
  .ok (goString pemBytes)

/-- The part of `inlinePublicKeys` for key management services: an address without `://` stays. -/
def inlineKMS (keyref : V1alpha1.KeyRef) : Except GoError V1alpha1.KeyRef :=
  if keyref.kms ≠ "" ∧ contains keyref.kms "://" then do
    let pubKeyString ← getKMSPublicKey lookups keyref.kms
    .ok { keyref with data := pubKeyString, kms := "" }
  else .ok keyref

/-- Change what a pointer refers to, unless it is nil. -/
def through (change : V1alpha1.KeyRef → Except GoError V1alpha1.KeyRef) :
    Option Nat → Proc KeyHeap Unit
  | none => return ()
  | some pointer => Heap.update change pointer

/-- One round of the loop of `inlinePublicKeys`. -/
def inlineAuthority (authority : V1alpha1.Authority Nat) : Proc KeyHeap Unit := do
  through (inlineAndTrackSecret p lookups) authority.key
  through (inlineAndTrackSecret p lookups) (authority.keyless.bind V1alpha1.KeylessRef.caCert)
  through (inlineKMS lookups) authority.key

/-- `DeepCopy` of a pointer to a key reference. -/
def deepCopyKey : Option Nat → Proc KeyHeap (Option Nat)
  | none => return none
  | some pointer => do
    let copied ← Heap.copy pointer
    return some copied

/-- `DeepCopy` of a pointer to a keyless authority. -/
def deepCopyKeyless : Option (V1alpha1.KeylessRef Nat) →
    Proc KeyHeap (Option (V1alpha1.KeylessRef Nat))
  | none => return none
  | some keyless => do
    let caCert ← deepCopyKey keyless.caCert
    return some { keyless with caCert }

/-- `DeepCopy` of an authority. -/
def deepCopyAuthority (authority : V1alpha1.Authority Nat) :
    Proc KeyHeap (V1alpha1.Authority Nat) := do
  let key ← deepCopyKey authority.key
  let keyless ← deepCopyKeyless authority.keyless
  return { authority with key, keyless }

/-- `cip.DeepCopy()`. -/
def deepCopy (cip : V1alpha1.ClusterImagePolicy Nat) :
    Proc KeyHeap (V1alpha1.ClusterImagePolicy Nat) := do
  let authorities ← cip.authorities.mapM deepCopyAuthority
  return { cip with authorities }

/-- `inlinePublicKeys`. -/
def inlinePublicKeys (cip : V1alpha1.ClusterImagePolicy Nat) :
    Proc KeyHeap (V1alpha1.ClusterImagePolicy Nat) := do
  let ret ← deepCopy cip
  ret.authorities.forM (inlineAuthority p lookups)
  return ret

end

/-- The data of a `corev1.ConfigMap`. -/
structure ConfigMap where
  /-- The entries. -/
  data : GoMap String

/-- `NewConfigMap`. -/
def newConfigMap (cipName : String) (cip : ConvertedPolicy) : ConfigMap :=
  ⟨AList.singleton cipName (marshal cip)⟩

/-- `CreatePatch`. -/
def createPatch (cipName : String) (cm : ConfigMap) (cip : ConvertedPolicy) :
    List (PatchOp String String) :=
  Patch.createPatch cm.data (cm.data.insert cipName (marshal cip))

/-- `CreateRemovePatch`. -/
def createRemovePatch (cm : ConfigMap) (cipName : String) : List (PatchOp String String) :=
  Patch.createPatch cm.data (cm.data.erase cipName)

/-- A request for the configuration map. -/
inductive Request where
  | create (cm : ConfigMap)
  /-- `Patch` with a JSON patch. -/
  | patch (ops : List (PatchOp String String))

/-- Errors of the lister. -/
inductive ListerError where
  /-- There is no such map. -/
  | notFound (err : GoError)
  /-- Another error. -/
  | other (err : GoError)

/-- What a call asks of the API server, if anything, and what it returns once it knows the error
of the answer. -/
structure Action where
  request : Option Request
  /-- The event that is returned. -/
  returns : Option GoError → Option GoError

/-- Send a patch, unless it is empty. -/
def sendPatch (patchBytes : List (PatchOp String String)) : Action :=
  if patchBytes.length > 0 then ⟨some (.patch patchBytes), id⟩ else ⟨none, fun _ => none⟩

/-- `removeCIPEntry`. -/
def removeCIPEntry (cm : ConfigMap) (cipName : String) : Action :=
  sendPatch (createRemovePatch cm cipName)

section

variable (p : WebhookPlatform) (lookups : Lookups) (lister : Except ListerError ConfigMap)

/-- `handleCIPError`, by its request: errors are logged. -/
def handleCIPError (cipName : String) : Option Request :=
  match lister with
  | .error _ => none
  | .ok existing => (removeCIPEntry existing cipName).request

/-- `ReconcileKind`, and the heap afterwards. -/
def reconcileKind (cip : V1alpha1.ClusterImagePolicy Nat) (heap : KeyHeap) : Action × KeyHeap :=
  match inlinePublicKeys p lookups cip heap with
  | (.error cipErr, heap) => (⟨handleCIPError lister cip.name.text, fun _ => some cipErr⟩, heap)
  | (.ok cipCopy, heap) =>
    let webhookCIP := convertClusterImagePolicyV1alpha1ToWebhook (cipCopy.map heap.cell)
    match lister with
    | .error (.other err) => (⟨none, fun _ => some err⟩, heap)
    | .error (.notFound _) =>
      (⟨some (.create (newConfigMap cip.name.text webhookCIP)), id⟩, heap)
    | .ok existing => (sendPatch (createPatch cip.name.text existing webhookCIP), heap)

/-- `FinalizeKind`. -/
def finalizeKind (cipName : String) : Action :=
  match lister with
  | .error (.other err) => ⟨none, fun _ => some err⟩
  | .error (.notFound _) => ⟨none, fun _ => none⟩
  | .ok existing => removeCIPEntry existing cipName

end

/-- The pointers of an authority, in the order in which they are copied. -/
def pointers (authority : V1alpha1.Authority Nat) : List Nat :=
  authority.key.toList ++ (authority.keyless.bind V1alpha1.KeylessRef.caCert).toList

/-- A policy in memory, as it is passed to the reconciler. -/
structure Object where
  policy : V1alpha1.ClusterImagePolicy Nat
  /-- The key references. -/
  heap : KeyHeap
  /-- Its pointers refer to cells that are in use. -/
  allocated : ∀ authority ∈ policy.authorities, ∀ pointer ∈ pointers authority, pointer < heap.next

/-- The policy without pointers. -/
def Object.value (object : Object) : V1alpha1.ClusterImagePolicy V1alpha1.KeyRef :=
  object.policy.map object.heap.cell

/-- A call of the reconciler, with what its lookups return. -/
inductive Event where
  /-- `ReconcileKind`. -/
  | reconcile (lookups : Lookups) (object : Object)
  /-- `FinalizeKind`. -/
  | finalize (name : V1alpha1.ObjectName)

/-- The name of the policy that a call is about. -/
def Event.name : Event → String
  | .reconcile _ object => object.policy.name.text
  | .finalize name => name.text

/-- What a call does with an answer of the lister. -/
def Event.action (p : WebhookPlatform) (lister : Except ListerError ConfigMap) : Event → Action
  | .reconcile lookups object => (reconcileKind p lookups lister object.policy object.heap).1
  | .finalize name => finalizeKind lister name.text

/-- The API server: a map is created only where there is none, and only a map that exists is
patched. -/
def serve (cm : Option ConfigMap) : Request → Except GoError ConfigMap
  | .create fresh =>
    match cm with
    | none => .ok fresh
    | some _ => .error ⟨"configmaps \"config-image-policies\" already exists"⟩
  | .patch ops =>
    match cm with
    | none => .error ⟨"configmaps \"config-image-policies\" not found"⟩
    | some cm => (applyPatch ops cm.data).map ConfigMap.mk

/-- What the API server holds after a request: a request that it refuses changes nothing. -/
def served (cm : Option ConfigMap) (request : Request) : Option ConfigMap :=
  match serve cm request with
  | .ok after => some after
  | .error _ => cm

/-- The answer of a lister that has seen a state of the API server. -/
def listed : Option ConfigMap → Except ListerError ConfigMap
  | none => .error (.notFound ⟨"configmap \"config-image-policies\" not found"⟩)
  | some cm => .ok cm

/-- The API server after a call with an up-to-date lister. -/
def Event.run (p : WebhookPlatform) (cm : Option ConfigMap) (event : Event) : Option ConfigMap :=
  match (event.action p (listed cm)).request with
  | none => cm
  | some request => served cm request

/-- The API server after one call after another. -/
def runEvents (p : WebhookPlatform) (cm : Option ConfigMap) (events : List Event) :
    Option ConfigMap :=
  events.foldl (Event.run p) cm

/-- The entry of a policy. -/
def entry (cm : Option ConfigMap) (name : String) : Option String :=
  cm.bind fun cm => cm.data.lookup name

end Cosign.Webhook
