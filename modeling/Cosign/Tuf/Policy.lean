import Cosign.Encoding.Text
import Cosign.Encoding.Struct
import Cosign.Sign.Statement

/-!
# The keyless root policy

A root policy lists the maintainers of a namespace as keys, each with the identity and the issuer
that a Fulcio certificate must have, and a role that names the keys that may sign. `policy init`
writes a new one; `policy sign` adds a signature, or replaces an earlier one with the same key id.
The key id is looked up by a loop over the map of keys, in a given order (`RangeOrder`). The
canonical JSON of a key and the hash that make its id are parameters.
-/
namespace Cosign.Tuf

open Cosign.Go Cosign.Encoding Cosign.Sign

/-- `FulcioKeyVal`: the identity of a signer and the issuer that vouched for it. -/
structure FulcioKeyVal where
  identity : String
  /-- `Issuer`; in a root key the empty text stands for every issuer. -/
  issuer : String
  deriving DecidableEq, Repr

/-- `Key`. -/
structure Key where
  type : String
  scheme : String
  algorithms : List String
  /-- `Value`, by the tree of its text; `none` if the text is no JSON, as of a key without it. -/
  value : Option Json

/-- `Role`. -/
structure Role where
  keyIDs : List String
  threshold : Int64
  deriving DecidableEq, Repr

/-- `Root`. -/
structure Root where
  type : String
  specVersion : String
  version : Int64
  /-- `Expires`, by the text that is written for it. -/
  expires : String
  /-- `Keys`; a decoded map can hold nil pointers. -/
  keys : GoMap (Option Key)
  /-- `Roles`; a decoded map can hold nil pointers. -/
  roles : GoMap (Option Role)
  namespaceName : String
  consistentSnapshot : Bool

/-- `Signature`. -/
structure Signature where
  keyID : String
  signature : String
  cert : String
  deriving DecidableEq, Repr

/-- `Signed`. -/
structure Signed where
  /-- `Signed`: the text of the root policy. -/
  signed : Bytes
  signatures : List Signature
  deriving DecidableEq, Repr

/-- What the policy commands take from other packages. -/
structure PolicyPlatform where
  /-- SHA-256. -/
  sha256 : Bytes → Bytes
  /-- `cjson.EncodeCanonical` of a key, whose error the source drops. -/
  encodeCanonical : Key → Bytes
  /-- `mail.ParseAddress` accepts the text. -/
  validEmail : String → Bool
  /-- `DefaultExpires("root")`. -/
  defaultExpires : String
  /-- The time after some days. -/
  expiresAfter : Int64 → String

/-! ## Keys -/

/-- `KeyTypeFulcio`. -/
def keyTypeFulcio : String := "sigstore-oidc"

/-- `KeySchemeFulcio`. -/
def keySchemeFulcio : String := "https://fulcio.sigstore.dev"

/-- `KeyAlgorithms`. -/
def keyAlgorithms : List String := ["sha256", "sha512"]

/-- The tree that `json.Marshal` writes for a key value. -/
def FulcioKeyVal.json (val : FulcioKeyVal) : Json :=
  Json.struct [("identity", some (.str val.identity)), ("issuer", Json.omitString val.issuer)]

/-- Struct tags of `FulcioKeyVal`. -/
def FulcioKeyVal.fields : List (StructField FulcioKeyVal) :=
  [⟨"identity", storeString fun filled identity => { filled with identity }⟩,
    ⟨"issuer", storeString fun filled issuer => { filled with issuer }⟩]

/-- `FulcioVerificationKey`. -/
def fulcioVerificationKey (email issuer : String) : Key where
  type := keyTypeFulcio
  scheme := keySchemeFulcio
  algorithms := keyAlgorithms
  value := some (FulcioKeyVal.json ⟨email, issuer⟩)

/-- `GetFulcioKeyVal`. -/
def getFulcioKeyVal (key : Option Key) : Call (Except GoError FulcioKeyVal) := do
  let key ← deref key
  match key.value with
  | some tree => .ok (fillStruct "tuf.FulcioKeyVal" FulcioKeyVal.fields ⟨"", ""⟩ tree)
  | none => .ok (.error ⟨"unexpected end of JSON input"⟩)

/-- The value of a verification key is read back. -/
theorem getFulcioKeyVal_verificationKey (email issuer : String) :
    getFulcioKeyVal (some (fulcioVerificationKey email issuer)) = .ok (.ok ⟨email, issuer⟩) := by
  by_cases empty : issuer = ""
  · subst empty
    rfl
  · have written : FulcioKeyVal.json ⟨email, issuer⟩ =
        .obj [("identity", .str email), ("issuer", .str issuer)] := by
      simp [FulcioKeyVal.json, Json.struct, Json.present, Json.omitString, empty]
    unfold getFulcioKeyVal fulcioVerificationKey
    rw [written]
    rfl

/-- `ID`. -/
def Key.id (p : PolicyPlatform) (key : Key) : String :=
  Hex.encodeToString (p.sha256 (p.encodeCanonical key))

/-! ## Roots and roles -/

/-- `NewRoot`. -/
def newRoot (p : PolicyPlatform) : Root where
  type := "root"
  specVersion := "1.0"
  version := 1
  expires := p.defaultExpires
  keys := ∅
  roles := ∅
  namespaceName := ""
  consistentSnapshot := true

/-- `AddKey`, with whether the root changed. -/
def Root.addKey (p : PolicyPlatform) (root : Root) (key : Key) : Root × Bool :=
  if key.id p ∈ root.keys then (root, false)
  else ({ root with keys := root.keys.insert (key.id p) (some key) }, true)

/-- One round of the loop of `AddKeysWithThreshold`; `roleIDs` are the ids of before the loop. -/
def addKeyID (p : PolicyPlatform) (roleIDs : List String) (state : List String × Bool)
    (key : Key) : List String × Bool :=
  if key.id p ∈ roleIDs then state else (state.1 ++ [key.id p], true)

/-- `AddKeysWithThreshold`, with whether a key was added. -/
def Role.addKeysWithThreshold (p : PolicyPlatform) (role : Role) (keys : List Key)
    (threshold : Int64) : Role × Bool :=
  let (keyIDs, changed) := keys.foldl (addKeyID p role.keyIDs) (role.keyIDs, false)
  (⟨keyIDs, threshold⟩, changed)

/-- The loop of `ValidKey`: the id of the first key with the identity of the signer and no issuer
or that of the signer, or the empty text. -/
def findKey (val : FulcioKeyVal) :
    List (Sigma fun _ : String => Option Key) → Call (Except GoError String)
  | [] => .ok (.ok "")
  | ⟨keyid, rootKey⟩ :: rest => do
    match ← getFulcioKeyVal rootKey with
    | .error err => .ok (.error (err.wrap "error parsing root key"))
    | .ok rootVal =>
      if val.identity = rootVal.identity ∧ (rootVal.issuer = "" ∨ rootVal.issuer = val.issuer) then
        .ok (.ok keyid)
      else findKey val rest

/-- `ValidKey`, when the loop over the keys takes a given order. -/
def Root.validKey (root : Root) (order : RangeOrder (Option Key)) (key : Option Key)
    (role : String) : Call (Except GoError String) := do
  match ← getFulcioKeyVal key with
  | .error err => .ok (.error (err.wrap "error parsing signer key"))
  | .ok val =>
    match ← findKey val (order.arrange root.keys).entries with
    | .error err => .ok (.error err)
    | .ok result =>
      if result = "" then .ok (.error ⟨"key not found in root keys"⟩)
      else match root.roles.lookup role with
        | none => .ok (.error ⟨"invalid role"⟩)
        | some rootRole => do
          let rootRole ← deref rootRole
          if result ∈ rootRole.keyIDs then .ok (.ok result)
          else .ok (.error ⟨"key not found in role"⟩)

/-! ## JSON of a root -/

/-- Struct tags of `Key`. -/
def Key.fields : List (StructField Key) :=
  [⟨"keytype", storeString fun filled type => { filled with type }⟩,
    ⟨"scheme", storeString fun filled scheme => { filled with scheme }⟩,
    ⟨"keyid_hash_algorithms", storeSlice fillText fun filled algorithms =>
      { filled with algorithms }⟩,
    ⟨"keyval", fun filled value => .ok { filled with value := some value }⟩]

/-- Fill a `*Key` of a map. -/
def Key.fill : Json → Except GoError (Option Key) :=
  fillPointer (fillStruct "tuf.Key" Key.fields) ⟨"", "", [], none⟩

/-- Struct tags of `Role`. -/
def Role.fields : List (StructField Role) :=
  [⟨"keyids", storeSlice fillText fun filled keyIDs => { filled with keyIDs }⟩,
    ⟨"threshold", storeInt64 fun filled threshold => { filled with threshold }⟩]

/-- Fill a `*Role` of a map. -/
def Role.fill : Json → Except GoError (Option Role) :=
  fillPointer (fillStruct "tuf.Role" Role.fields) ⟨[], 0⟩

/-- Store the expiry of a root; null leaves it as it is. -/
def storeExpires (times : TimeCodec) (filled : Root) : Json → Except GoError Root
  | .null => .ok filled
  | value => (times.read value).map fun expires => { filled with expires }

/-- Struct tags of `Root`. -/
def Root.fields (times : TimeCodec) : List (StructField Root) :=
  [⟨"_type", storeString fun filled type => { filled with type }⟩,
    ⟨"spec_version", storeString fun filled specVersion => { filled with specVersion }⟩,
    ⟨"version", storeInt64 fun filled version => { filled with version }⟩,
    ⟨"expires", storeExpires times⟩,
    ⟨"keys", storeTable Key.fill Root.keys fun filled keys => { filled with keys }⟩,
    ⟨"roles", storeTable Role.fill Root.roles fun filled roles => { filled with roles }⟩,
    ⟨"namespace", storeString fun filled namespaceName => { filled with namespaceName }⟩,
    ⟨"consistent_snapshot", storeBool fun filled consistentSnapshot =>
      { filled with consistentSnapshot }⟩]

/-- The root before it is filled. -/
def Root.zero (times : TimeCodec) : Root := ⟨"", "", 0, times.zero, ∅, ∅, "", false⟩

/-- `json.Unmarshal` into a new root. -/
def Root.unmarshal (times : TimeCodec) (text : Bytes) : Except GoError Root :=
  Encoding.unmarshal (fillStruct "tuf.Root" (Root.fields times) (Root.zero times)) text

/-! ## The commands -/

/-- `AddOrUpdateSignature`, with its error, if any; the loop over the keys takes a given order. -/
def Signed.addOrUpdateSignature (times : TimeCodec) (s : Signed) (order : RangeOrder (Option Key))
    (key : Option Key) (signature : Signature) : Call (Signed × Option GoError) :=
  match Root.unmarshal times s.signed with
  | .error err => .ok (s, some (err.wrap "unmarshalling root policy"))
  | .ok root => do
    match ← root.validKey order key "root" with
    | .error _ => .ok (s, some ⟨"invalid root key"⟩)
    | .ok keyID =>
      let signatures := s.signatures.filter fun sig => sig.keyID ≠ keyID
      .ok ({ s with signatures := signatures ++ [{ signature with keyID }] }, none)

/-- Options of `policy init`. -/
structure PolicyInitOptions where
  maintainers : List String
  issuer : String
  threshold : Int64
  /-- `Expires`, in days. -/
  expires : Int64
  imageRef : String

/-- The key of a maintainer, without the white space around the email address. -/
def maintainerKey (p : PolicyPlatform) (issuer email : String) : Call Key :=
  if p.validEmail email then
    .ok (fulcioVerificationKey (goString (trimSpace (utf8Bytes email))) issuer)
  else .error (.raised ⟨"Invalid email format: " ++ email⟩)

/-- The role `root` of a root; if there is none, a new one. -/
def Root.rootRole (root : Root) : Call Role :=
  match root.roles.lookup "root" with
  | some role => deref role
  | none => .ok ⟨[], 1⟩

/-- Add keys to a root and to its role `root`, as `policy init` does. -/
def Root.addMaintainers (p : PolicyPlatform) (root : Root) (publicKeys : List Key)
    (threshold : Int64) : Call Root := do
  let root := publicKeys.foldl (fun root key => (root.addKey p key).1) root
  let role ← root.rootRole
  let role := (role.addKeysWithThreshold p publicKeys threshold).1
  .ok { root with roles := root.roles.insert "root" (some role) }

/-- `policy init`, up to the root that it writes. -/
def initPolicy (p : PolicyPlatform) (o : PolicyInitOptions) : Call Root := do
  let publicKeys ← o.maintainers.mapM (maintainerKey p o.issuer)
  let root ← (newRoot p).addMaintainers p publicKeys o.threshold
  let root := { root with namespaceName := o.imageRef }
  if 0 < o.expires then .ok { root with expires := p.expiresAfter o.expires } else .ok root

end Cosign.Tuf
