import Cosign.Encoding.Unmarshal
import Cosign.Encoding.Url

/-!
# PKCS#11 URIs

A key on a hardware token is named by a URI: the attributes of the token and the key in its opaque
part, the path of the module and the PIN in its query. `Construct` writes it with two tables of
bytes that it leaves as they are; `Parse` reads it as two form queries, after replacing the
semicolons.
-/
namespace Cosign.Pkcs11

open Cosign.Go Cosign.Encoding Cosign.Encoding.Url

/-- `pathAttrValueChars`. -/
def pathAttrValueChars : Bytes :=
  utf8Bytes
    "ABCDEFGHIJKLMNOPQRSTUVWXYZabcdefghijklmnopqrstuvwxyz0123456789-._~:[]@!$'()*+,=&"

/-- `queryAttrValueChars`. -/
def queryAttrValueChars : Bytes :=
  utf8Bytes
    "ABCDEFGHIJKLMNOPQRSTUVWXYZabcdefghijklmnopqrstuvwxyz0123456789-._~:[]@!$'()*+,=/?|"

/-- `percentEncode`. -/
def percentEncode (input : Bytes) : Bytes := input.flatMap escapeByte

/-- One round of the loop of `EncodeURIComponent`. -/
def encodeByte (allowedChars : Bytes) (usePercentEncoding : Bool) (byte : UInt8) :
    Except GoError Bytes :=
  if byte ∈ allowedChars then .ok [byte]
  else if usePercentEncoding then .ok (percentEncode [byte])
  else .error ⟨"string contains an invalid character"⟩

/-- The bytes that `EncodeURIComponent` leaves as they are. -/
def allowedChars (isForPath : Bool) : Bytes :=
  if isForPath then pathAttrValueChars else queryAttrValueChars

/-- `EncodeURIComponent`. -/
def encodeURIComponent (uriString : Bytes) (isForPath usePercentEncoding : Bool) :
    Except GoError Bytes := do
  let pieces ← uriString.mapM (encodeByte (allowedChars isForPath) usePercentEncoding)
  .ok pieces.flatten

/-- `Pkcs11UriConfig`, the exported fields. -/
structure Pkcs11UriConfig where
  modulePath : Bytes := []
  /-- `SlotID`, nil or a number. -/
  slotID : Option Int64 := none
  tokenLabel : Bytes := []
  keyLabel : Bytes := []
  keyID : Bytes := []
  pin : Bytes := []
  deriving DecidableEq

/-! ## Writing -/

/-- An encoded attribute of the URI behind the text before its value; nothing for an empty value. -/
def encodedAttribute (lead : String) (value : Bytes) (isForPath : Bool) (message : String) :
    Except GoError Bytes :=
  if value = [] then .ok []
  else do
    let encoded ←
      (encodeURIComponent value isForPath true).mapError fun err => err.wrap message
    .ok (utf8Bytes lead ++ encoded)

/-- `fmt.Sprintf("%d", slotID)`, or the empty text for nil. -/
def slotText (slotID : Option Int64) : Bytes :=
  slotID.elim [] fun slot => utf8Bytes (toString slot)

/-- `Construct`. -/
def Pkcs11UriConfig.construct (conf : Pkcs11UriConfig) : Except GoError Bytes :=
  if conf.modulePath = [] then
    .error ⟨"module path must be set to the absolute path of the PKCS11 module"⟩
  else if conf.keyLabel = [] ∧ conf.keyID = [] then
    .error ⟨"one of keyLabel and keyID must be set"⟩
  else if conf.tokenLabel = [] ∧ conf.slotID = none then
    .error ⟨"one of tokenLabel and slotID must be set"⟩
  else do
    let tokenLabel ← encodedAttribute "token=" conf.tokenLabel true "encode token label"
    let slotID :=
      if conf.slotID = none then [] else utf8Bytes ";slot-id=" ++ slotText conf.slotID
    let keyID := if conf.keyID = [] then [] else utf8Bytes ";id=" ++ percentEncode conf.keyID
    let keyLabel ← encodedAttribute ";object=" conf.keyLabel true "encode key label"
    let modulePath ←
      (encodeURIComponent conf.modulePath false true).mapError fun err =>
        err.wrap "encode module path"
    let pin ← encodedAttribute "&pin-value=" conf.pin false "encode pin"
    .ok (utf8Bytes "pkcs11:" ++ tokenLabel ++ slotID ++ keyID ++ keyLabel ++
      utf8Bytes "?module-path=" ++ modulePath ++ pin)

/-! ## Reading -/

/-- `strconv.Atoi`. -/
def atoi (text : Bytes) : Option Int64 :=
  -- A literal of the JSON grammar has no plus sign; here one may stand in place of a minus sign.
  if text.head? = some plus then
    if text.tail.head? = some 45 then none else parseInt64 (goString text.tail)
  else parseInt64 (goString text)

/-- The slot of the attribute, nil if there is no attribute. -/
def readSlotID (slotIDStr : Bytes) : Except GoError (Option Int64) :=
  if slotIDStr = [] then .ok none
  else
    match atoi slotIDStr with
    | some slot => .ok (some slot)
    | none =>
      .error ⟨"invalid uri: slot-id '" ++ goString slotIDStr ++ "' is not a valid number"⟩

/-- The module path of the attribute, or of the environment. -/
def readModulePath (getenv : String → Bytes) (modulePath : Bytes) : Except GoError Bytes :=
  if modulePath ≠ [] then .ok modulePath
  else if getenv "COSIGN_PKCS11_MODULE_PATH" ≠ [] then .ok (getenv "COSIGN_PKCS11_MODULE_PATH")
  else
    .error ⟨"invalid uri: module-path or COSIGN_PKCS11_MODULE_PATH must be set to the absolute " ++
      "path of the PKCS11 module"⟩

/-- The part of `Parse` behind the two queries. -/
def readAttributes (getenv : String → Bytes)
    (uriPathAttributes uriQueryAttributes : List (Bytes × Bytes)) :
    Except GoError Pkcs11UriConfig :=
  let modulePath := valuesGet uriQueryAttributes (utf8Bytes "module-path")
  let pinValue := valuesGet uriQueryAttributes (utf8Bytes "pin-value")
  let tokenLabel := valuesGet uriPathAttributes (utf8Bytes "token")
  let slotIDStr := valuesGet uriPathAttributes (utf8Bytes "slot-id")
  let keyLabel := valuesGet uriPathAttributes (utf8Bytes "object")
  let keyID := valuesGet uriPathAttributes (utf8Bytes "id")
  if tokenLabel = [] ∧ slotIDStr = [] then
    .error ⟨"invalid uri: one of token and slot-id must be set"⟩
  else do
    let slotID ← readSlotID slotIDStr
    let modulePath ← readModulePath getenv modulePath
    if keyLabel = [] ∧ keyID = [] then
      .error ⟨"invalid uri: one of object and id must be set"⟩
    else .ok ⟨modulePath, slotID, tokenLabel, keyLabel, keyID, pinValue⟩

/-- `strings.ReplaceAll(text, ";", "&")`. -/
def replaceSemicolons (text : Bytes) : Bytes :=
  text.map fun byte => if byte = semicolon then ampersand else byte

/-- `Parse`. It sets the fields after the last check, so with an error they keep their values. -/
def Pkcs11UriConfig.parse (getenv : String → Bytes) (other : Bytes → Except GoError Parts)
    (uriString : Bytes) : Except GoError Pkcs11UriConfig := do
  let uri ← (Url.parse other uriString).mapError fun err => err.wrap "parse uri"
  if uri.scheme ≠ utf8Bytes "pkcs11" then .error ⟨"invalid uri: not a PKCS11 uri"⟩
  else do
    let uriPathAttributes ←
      (parseQuery (replaceSemicolons uri.opaquePart)).mapError fun err =>
        err.wrap "parse uri path"
    let uriQueryAttributes ←
      (parseQuery (replaceSemicolons uri.rawQuery)).mapError fun err =>
        err.wrap "parse uri query"
    readAttributes getenv uriPathAttributes uriQueryAttributes

end Cosign.Pkcs11
