import Cosign.Webhook.Platform

/-!
# Image policies and their configuration

The webhook's form of a cluster image policy, its decoding from the configuration map, and the
selection of the policies that match an image. Public keys and remote options are no JSON fields:
decoding computes them from the inline key data and the sources of an authority. Key data that is no
PEM gives an authority without public keys, not an error.
-/
namespace Cosign.Webhook

open Cosign.Go Cosign.Encoding Cosign.Oci Cosign.Verify

/-- `KeyRef`: an inline public key. -/
structure KeyRef where
  /-- The inline data. -/
  data : String
  /-- The keys parsed from the data. -/
  publicKeys : List PublicKey
  deriving DecidableEq, Repr

/-- `KeylessRef`. -/
structure KeylessRef where
  /-- Address of Fulcio. -/
  url : Option Url
  /-- Identities of which one has to match. -/
  identities : List Identity
  /-- Certificate of the authority. -/
  caCert : Option KeyRef
  deriving DecidableEq, Repr

/-- `v1alpha1.Source`. -/
structure Source where
  /-- Repository that holds the signatures. -/
  oci : String
  deriving DecidableEq, Repr

/-- `v1alpha1.TLog`. -/
structure TLog where
  /-- Address of the log. -/
  url : Option Url
  deriving DecidableEq, Repr

/-- `Authority`. -/
structure Authority where
  /-- Verification by key. -/
  key : Option KeyRef
  /-- Verification by certificate. -/
  keyless : Option KeylessRef
  /-- Where signatures are stored. -/
  sources : List Source
  /-- Transparency log to consult. -/
  ctlog : Option TLog
  /-- Options computed from the sources. -/
  remoteOpts : List RemoteOption
  deriving DecidableEq, Repr

/-- `v1alpha1.ImagePattern`. -/
structure ImagePattern where
  /-- A glob; empty means none. -/
  glob : String
  /-- A regular expression, used when there is no glob; empty means none. -/
  regex : String
  deriving DecidableEq, Repr

/-- `ClusterImagePolicy`. -/
structure ClusterImagePolicy where
  /-- Patterns of the images the policy is about. -/
  images : List ImagePattern
  /-- Authorities of which one has to be satisfied. -/
  authorities : List Authority
  deriving DecidableEq, Repr

section

variable (p : WebhookPlatform)

/-- `parsePEMKey`: the blocks of a text, and whether nothing but blocks was found. -/
def parsePEMKey (b : Bytes) : List Bytes × Bool :=
  match _decoded : p.pemDecoder.decode b with
  | none => ([], false)
  | some (pemKey, rest) =>
    if 0 < rest.length then
      let (list, check) := parsePEMKey rest
      (pemKey :: list, check)
    else ([pemKey], true)
  termination_by b.length
  decreasing_by exact p.pemDecoder.shorter _ _ _ _decoded

/-- The public keys of PEM blocks, in order. -/
def parsePKIXKeys : List Bytes → Except GoError (List PublicKey)
  | [] => .ok []
  | block :: rest =>
    match p.parsePKIXPublicKey block with
    | .error err => .error err
    | .ok key =>
      match parsePKIXKeys rest with
      | .error err => .error err
      | .ok keys => .ok (key :: keys)

/-- `ConvertKeyDataToPublicKeys` on the bytes of its argument: data that is no PEM has no keys. -/
def convertKeyBytesToPublicKeys (pubKey : Bytes) : Except GoError (List PublicKey) :=
  match parsePEMKey p pubKey with
  | (_, false) => .ok []
  | (pems, true) => parsePKIXKeys p pems

/-- `ConvertKeyDataToPublicKeys` on a text. -/
def convertKeyDataToPublicKeys (pubKey : String) : Except GoError (List PublicKey) :=
  convertKeyBytesToPublicKeys p (utf8Bytes pubKey)

/-- `UnmarshalJSON` of a key reference: the data, through a map, and its keys. -/
def KeyRef.fill (value : Json) : Except GoError KeyRef :=
  match fillStringMap [] value with
  | .error err => .error err
  | .ok ret =>
    let data := (stringMapValue ret "data").getD ""
    if data = "" then .ok ⟨data, []⟩
    else match convertKeyDataToPublicKeys p data with
      | .error err => .error err
      | .ok publicKeys => .ok ⟨data, publicKeys⟩

/-- `UnmarshalJSON` of a URL: the empty text is the zero URL. -/
def Url.fill : Json → Except GoError Url
  | .str text => if text = "" then .ok ⟨""⟩ else p.parseURL text
  | _ => .error (typeError "string")

/-- Fill an identity. -/
def fillIdentity (value : Json) : Except GoError Identity :=
  fillStruct "v1alpha1.Identity"
    [⟨"issuer", storeString fun filled issuer => { filled with issuer }⟩,
      ⟨"subject", storeString fun filled subject => { filled with subject }⟩]
    ⟨"", ""⟩ value

/-- Struct tags of `KeylessRef`. -/
def KeylessRef.fields : List (StructField KeylessRef) :=
  [⟨"url", storePointer (fun _ => Url.fill p) ⟨""⟩ KeylessRef.url fun filled url =>
      { filled with url }⟩,
    ⟨"identities", storeSlice fillIdentity fun filled identities => { filled with identities }⟩,
    ⟨"ca-cert", storePointer (fun _ => KeyRef.fill p) ⟨"", []⟩ KeylessRef.caCert
      fun filled caCert => { filled with caCert }⟩]

/-- Fill a source. -/
def Source.fill (value : Json) : Except GoError Source :=
  fillStruct "v1alpha1.Source" [⟨"oci", storeString fun _ oci => ⟨oci⟩⟩] ⟨""⟩ value

/-- Struct tags of `TLog`. -/
def TLog.fields : List (StructField TLog) :=
  [⟨"url", storePointer (fun _ => Url.fill p) ⟨""⟩ TLog.url fun _ url => ⟨url⟩⟩]

/-- Struct tags of `Authority`; the remote options have none. -/
def Authority.fields : List (StructField Authority) :=
  [⟨"key", storePointer (fun _ => KeyRef.fill p) ⟨"", []⟩ Authority.key fun filled key =>
      { filled with key }⟩,
    ⟨"keyless", storePointer (fillStruct "clusterimagepolicy.KeylessRef" (KeylessRef.fields p))
      ⟨none, [], none⟩ Authority.keyless fun filled keyless => { filled with keyless }⟩,
    ⟨"source", storeSlice Source.fill fun filled sources => { filled with sources }⟩,
    ⟨"ctlog", storePointer (fillStruct "v1alpha1.TLog" (TLog.fields p)) ⟨none⟩ Authority.ctlog
      fun filled ctlog => { filled with ctlog }⟩]

/-- The remote options of the sources of an authority. -/
def sourceOptions : List Source → Except GoError (List RemoteOption)
  | [] => .ok []
  | source :: rest =>
    match p.newRepository source.oci with
    | .error err => .error (err.wrap "failed to determine source")
    | .ok targetRepoOverride =>
      match sourceOptions rest with
      | .error err => .error err
      | .ok more =>
        if targetRepoOverride ≠ ⟨"", false, ""⟩ then
          .ok (.targetRepository targetRepoOverride :: more)
        else .ok more

/-- `UnmarshalJSON` of an authority. -/
def Authority.fill (value : Json) : Except GoError Authority :=
  match fillStruct "clusterimagepolicy.RawAuthority" (Authority.fields p)
      ⟨none, none, [], none, []⟩ value with
  | .error err => .error err
  | .ok rawAuthority =>
    match sourceOptions p rawAuthority.sources with
    | .error err => .error err
    | .ok remoteOpts => .ok { rawAuthority with remoteOpts }

/-- Fill an image pattern. -/
def ImagePattern.fill (value : Json) : Except GoError ImagePattern :=
  fillStruct "v1alpha1.ImagePattern"
    [⟨"glob", storeString fun filled glob => { filled with glob }⟩,
      ⟨"regex", storeString fun filled regex => { filled with regex }⟩]
    ⟨"", ""⟩ value

/-- Struct tags of `ClusterImagePolicy`. -/
def ClusterImagePolicy.fields : List (StructField ClusterImagePolicy) :=
  [⟨"images", storeSlice ImagePattern.fill fun filled images => { filled with images }⟩,
    ⟨"authorities", storeSlice (Authority.fill p) fun filled authorities =>
      { filled with authorities }⟩]

/-- `parseEntry` into a policy. -/
def parseEntry (entry : String) : Except GoError ClusterImagePolicy :=
  match p.yamlToJSON (utf8Bytes entry) with
  | .error err => .error
      ⟨"config's value could not be converted to JSON: " ++ err.message ++ " : " ++ entry⟩
  | .ok j => unmarshal
      (fillStruct "clusterimagepolicy.ClusterImagePolicy" (ClusterImagePolicy.fields p) ⟨[], []⟩) j

/-- `ImagePolicyConfig`. -/
structure ImagePolicyConfig where
  /-- The policies by name. -/
  policies : GoMap ClusterImagePolicy

/-- Configurations are compared entry by entry. -/
instance : DecidableEq ImagePolicyConfig := fun left right =>
  decidable_of_iff (left.policies.entries = right.policies.entries) (by
    constructor
    · intro same
      exact congrArg ImagePolicyConfig.mk (AList.ext same)
    · rintro rfl
      rfl)

/-- One entry of the configuration map: the example is skipped, and a policy must be given. -/
def addEntry (policies : GoMap ClusterImagePolicy) (k v : String) :
    Except GoError (GoMap ClusterImagePolicy) :=
  if k = "_example" then .ok policies
  else if v = "" then .error ⟨"configmap has an entry " ++ p.quote k ++ " but no value"⟩
  else match parseEntry p v with
    | .error err => .error ⟨"failed to parse the entry " ++ p.quote k ++ " : " ++ p.quote v ++
        " : " ++ err.message⟩
    | .ok clusterImagePolicy => .ok (policies.insert k clusterImagePolicy)

/-- `NewImagePoliciesConfigFromMap`. -/
def newImagePoliciesConfigFromMap (data : GoMap String) : Except GoError ImagePolicyConfig :=
  (data.entries.foldlM (fun policies entry => addEntry p policies entry.1 entry.2) ∅).map
    ImagePolicyConfig.mk

/-- `GlobMatch`: a trailing star is a wildcard, everything else is literal. -/
def globMatch (image glob : String) : Bool :=
  let globChars := runes glob
  if globChars.getLast? == some '*' then globChars.dropLast.isPrefixOf (runes image)
  else image == glob

/-- Whether one pattern matches an image, or the error of its regular expression. -/
def matchPattern (image : String) (pattern : ImagePattern) : Except GoError Bool :=
  if pattern.glob ≠ "" then .ok (globMatch image pattern.glob)
  else if pattern.regex ≠ "" then
    match p.compileRegexp pattern.regex with
    | .error err => .error err
    | .ok matchString => .ok (matchString image)
  else .ok false

/-- The variables of `GetMatchingPolicies`. -/
structure Matching where
  /-- The authorities of the matching policies, once for each pattern that matches. -/
  ret : GoMap (List Authority)
  /-- The last error of a regular expression. -/
  lastError : Option GoError

/-- One pattern of a policy. -/
def matchStep (image k : String) (v : ClusterImagePolicy) (state : Matching)
    (pattern : ImagePattern) : Matching :=
  match matchPattern p image pattern with
  | .error err => { state with lastError := some err }
  | .ok true => { state with ret := state.ret.appendAt k v.authorities }
  | .ok false => state

/-- The loop of `GetMatchingPolicies` over policies. -/
def matchPolicies (image : String) (state : Matching)
    (policies : List (Sigma fun _ : String => ClusterImagePolicy)) : Matching :=
  policies.foldl (fun state entry =>
    entry.2.images.foldl (matchStep p image entry.1 entry.2) state) state

/-- `GetMatchingPolicies`. -/
def getMatchingPolicies (config : Option ImagePolicyConfig) (image : String) :
    GoMap (List Authority) × Option GoError :=
  match config with
  | none => (∅, some ⟨"config is nil"⟩)
  | some config =>
    let final := matchPolicies p image ⟨∅, none⟩ config.policies.entries
    (final.ret, final.lastError)

end

end Cosign.Webhook
