import Cosign.Go.Map
import Cosign.Go.Outcome
import Cosign.Encoding.Json

/-!
# Filling Go values from JSON trees

`json.Unmarshal` stores each member of an object, in text order, into the field of its exact name,
or else the first field whose name agrees up to letter case. A later member overwrites, and null
leaves a string or a number as it was. A map keeps the spelling of every name, so one text can fill
a field and a map entry with different values.
-/
namespace Cosign.Encoding

open Cosign.Go

/-- `UnmarshalTypeError` of a target type. -/
def typeError (target : String) : GoError :=
  ⟨"json: cannot unmarshal value into Go value of type " ++ target⟩

/-- `SyntaxError` of a text that is no JSON value. -/
def syntaxError : GoError := ⟨"invalid character in JSON text"⟩

/-- `CorruptInputError` of a base64 text. -/
def corruptInput : GoError := ⟨"illegal base64 data"⟩

/-- The representative of a letter under the simple folding that `encoding/json` applies to
ASCII field names: both cases, the Kelvin sign and the long s. -/
def foldChar (char : Char) : Char :=
  if 65 ≤ char.toNat ∧ char.toNat ≤ 90 then Char.ofNat (char.toNat + 32)
  else if char.toNat = 0x212A then 'k'
  else if char.toNat = 0x17F then 's'
  else char

/-- The two spellings agree up to letter case. -/
def equalFold (name key : String) : Bool :=
  (runes name).map foldChar == (runes key).map foldChar

@[simp] theorem equalFold_self (name : String) : equalFold name name = true := by
  simp [equalFold]

/-- One field of a struct: its name in JSON and how a value is stored into it. -/
structure StructField (σ : Type) where
  /-- Name in the struct tag. -/
  name : String
  /-- Store a value over what the field holds. -/
  store : σ → Json → Except GoError σ

variable {σ α : Type}

/-- The field a member name selects: an exact name first, then the first that folds to it. -/
def selectField (fields : List (StructField σ)) (key : String) : Option (StructField σ) :=
  match fields.find? fun field => field.name == key with
  | some field => some field
  | none => fields.find? fun field => equalFold field.name key

/-- Store the members of an object one after another; a name that selects no field is
skipped. -/
def fillMembers (fields : List (StructField σ)) : σ → List (String × Json) → Except GoError σ
  | filled, [] => .ok filled
  | filled, (key, value) :: rest =>
    match selectField fields key with
    | none => fillMembers fields filled rest
    | some field =>
      match field.store filled value with
      | .ok next => fillMembers fields next rest
      | .error err => .error err

/-- Fill a struct that holds `initial`. -/
def fillStruct (target : String) (fields : List (StructField σ)) (initial : σ) :
    Json → Except GoError σ
  | .null => .ok initial
  | .obj members => fillMembers fields initial members
  | _ => .error (typeError target)

/-- Store a string field. -/
def storeString (set : σ → String → σ) (filled : σ) : Json → Except GoError σ
  | .null => .ok filled
  | .str text => .ok (set filled text)
  | _ => .error (typeError "string")

/-- `strconv.ParseInt` of a literal in base ten at 64 bits. -/
def parseInt64 (literal : String) : Option Int64 :=
  let (negative, digits) := match runes literal with
    | '-' :: rest => (true, rest)
    | rest => (false, rest)
  if digits = [] ∨ digits.any (fun char => char.toNat < 48 || 57 < char.toNat) then none
  else
    let magnitude : Int := digits.foldl (fun total char => total * 10 + (char.toNat - 48 : Nat)) 0
    let value := if negative then -magnitude else magnitude
    if Int64.minValue.toInt ≤ value ∧ value ≤ Int64.maxValue.toInt then some (Int64.ofInt value)
    else none

/-- Store an `int64` field. -/
def storeInt64 (set : σ → Int64 → σ) (filled : σ) : Json → Except GoError σ
  | .null => .ok filled
  | .num literal =>
    match parseInt64 literal with
    | some value => .ok (set filled value)
    | none => .error (typeError "int64")
  | _ => .error (typeError "int64")

/-- Store a `bool` field. -/
def storeBool (set : σ → Bool → σ) (filled : σ) : Json → Except GoError σ
  | .null => .ok filled
  | .bool value => .ok (set filled value)
  | _ => .error (typeError "bool")

/-- A `string` element of a slice. -/
def fillText : Json → Except GoError String := storeString (fun _ text => text) ""

/-- Fill the elements of a slice, each from the zero value. -/
def fillElements (element : Json → Except GoError α) : List Json → Except GoError (List α)
  | [] => .ok []
  | value :: rest =>
    match element value with
    | .error err => .error err
    | .ok first =>
      match fillElements element rest with
      | .error err => .error err
      | .ok more => .ok (first :: more)

/-- A `uint8` element of a byte array. -/
def fillByte : Json → Except GoError UInt8
  | .null => .ok 0
  | .num literal =>
    match (runes literal).head?, parseInt64 literal with
    | some '-', _ => .error (typeError "uint8")
    | _, some value =>
      if value < 256 then .ok value.toUInt64.toUInt8 else .error (typeError "uint8")
    | _, none => .error (typeError "uint8")
  | _ => .error (typeError "uint8")

/-- Store a `[]byte` field, written as a base64 text or as an array of numbers. -/
def storeBytes (set : σ → Bytes → σ) (filled : σ) : Json → Except GoError σ
  | .null => .ok (set filled [])
  | .str text =>
    match Base64.stdDecode text with
    | some bytes => .ok (set filled bytes)
    | none => .error corruptInput
  | .arr elements =>
    match fillElements fillByte elements with
    | .ok bytes => .ok (set filled bytes)
    | .error err => .error err
  | _ => .error (typeError "[]uint8")

/-- Store a slice field; null makes it nil. -/
def storeSlice (element : Json → Except GoError α) (set : σ → List α → σ) (filled : σ) :
    Json → Except GoError σ
  | .null => .ok (set filled [])
  | .arr elements =>
    match fillElements element elements with
    | .ok values => .ok (set filled values)
    | .error err => .error err
  | _ => .error (typeError "slice")

/-- Store a field that is a pointer: null makes it nil, another value is filled over what it
points to, or over a new zero value. -/
def storePointer (fill : α → Json → Except GoError α) (zero : α) (get : σ → Option α)
    (set : σ → Option α → σ) (filled : σ) : Json → Except GoError σ
  | .null => .ok (set filled none)
  | value =>
    match fill ((get filled).getD zero) value with
    | .ok target => .ok (set filled (some target))
    | .error err => .error err

/-- A pointer that is an element of a map: null is nil, another value fills a new zero value. -/
def fillPointer (fill : α → Json → Except GoError α) (zero : α) : Json → Except GoError (Option α)
  | .null => .ok none
  | value => (fill zero value).map some

/-- Store a field that is a map: null makes it nil, and each member of an object is stored under
its name. -/
def storeTable (element : Json → Except GoError α) (get : σ → GoMap α) (set : σ → GoMap α → σ)
    (filled : σ) : Json → Except GoError σ
  | .null => .ok (set filled ∅)
  | .obj members => do
    let entries ← members.foldlM (fun (entries : GoMap α) (member : String × Json) => do
      let value ← element member.2
      .ok (entries.insert member.1 value)) (get filled)
    .ok (set filled entries)
  | _ => .error (typeError "map")

/-- Mantissa and decimal exponent of a number literal. -/
def decimalParts (literal : String) : Nat × Int :=
  let natural (digits : List Char) : Nat :=
    digits.foldl (fun total char => total * 10 + (char.toNat - 48)) 0
  let body := match runes literal with
    | '-' :: rest => rest
    | rest => rest
  let (whole, rest) := Json.digits body
  let (part, rest) := match rest with
    | '.' :: rest => Json.digits rest
    | rest => ([], rest)
  let power : Int := match rest with
    | _ :: '-' :: digits => -(natural digits : Int)
    | _ :: '+' :: digits => natural digits
    | _ :: digits => natural digits
    | [] => 0
  (natural (whole ++ part), power - part.length)

/-- The literal rounds to no finite binary64: `strconv.ParseFloat` reports a range error. -/
def floatOverflows (literal : String) : Bool :=
  let (mantissa, power) := decimalParts literal
  let size : Int := (Nat.toDigits 10 mantissa).length + power
  let limit := Nat.pow 2 1024 - Nat.pow 2 970
  if mantissa = 0 || size < 300 then false
  else if 320 < size then true
  else if 0 ≤ power then decide (limit ≤ mantissa * Nat.pow 10 power.toNat)
  else decide (limit * Nat.pow 10 (-power).toNat ≤ mantissa)

mutual

/-- Every number in the tree is a `float64`, so an `interface{}` can hold the tree. -/
def fitsInterface : Json → Bool
  | .num literal => !floatOverflows literal
  | .arr elements => elementsFit elements
  | .obj members => membersFit members
  | _ => true

/-- Every element fits. -/
def elementsFit : List Json → Bool
  | [] => true
  | first :: rest => fitsInterface first && elementsFit rest

/-- Every member fits. -/
def membersFit : List (String × Json) → Bool
  | [] => true
  | (_, first) :: rest => fitsInterface first && membersFit rest

end

/-- Store an `interface{}` field. -/
def storeAny (set : σ → Json → σ) (filled : σ) (value : Json) : Except GoError σ :=
  if fitsInterface value then .ok (set filled value) else .error (typeError "float64")

/-- The value a map holds under a name: that of the last member spelled exactly so. -/
def mapValue (members : List (String × Json)) (key : String) : Option Json :=
  (members.reverse.find? fun member => member.1 == key).map (·.2)

/-- Fill a `map[string]interface{}`: its members, of which lookups see the last of a name. -/
def fillMap : Json → Except GoError (List (String × Json))
  | .null => .ok []
  | .obj members =>
    if membersFit members then .ok members else .error (typeError "float64")
  | _ => .error (typeError "map[string]interface {}")

/-- Store a `map[string]interface{}` field: null makes it nil, and the members of an object are
added to those it holds. -/
def storeMap (get : σ → List (String × Json)) (set : σ → List (String × Json) → σ) (filled : σ)
    (value : Json) : Except GoError σ :=
  match value, fillMap value with
  | .null, _ => .ok (set filled [])
  | _, .ok members => .ok (set filled (get filled ++ members))
  | _, .error err => .error err

/-- The type assertion `value.(string)` of an `interface{}`. -/
def assertString : Json → Call String
  | .str text => .ok text
  | _ => .error .typeAssertion

@[simp] theorem assertString_eq_ok {value : Json} {text : String} :
    assertString value = .ok text ↔ value = .str text := by
  cases value <;> simp [assertString]

/-- Store the members of an object into a `map[string]string`; null stores the empty string. -/
def fillStringMembers (filled : List (String × String)) :
    List (String × Json) → Except GoError (List (String × String))
  | [] => .ok filled
  | (key, .str text) :: rest => fillStringMembers (filled ++ [(key, text)]) rest
  | (key, .null) :: rest => fillStringMembers (filled ++ [(key, "")]) rest
  | _ :: _ => .error (typeError "string")

/-- Fill a `map[string]string` over the entries it holds; lookups see the last of a name. -/
def fillStringMap (filled : List (String × String)) : Json → Except GoError (List (String × String))
  | .null => .ok []
  | .obj members => fillStringMembers filled members
  | _ => .error (typeError "map[string]string")

/-- The value a `map[string]string` holds under a name. -/
def stringMapValue (entries : List (String × String)) (key : String) : Option String :=
  (entries.reverse.find? fun entry => entry.1 == key).map (·.2)

/-- `json.Unmarshal` of a text into a value filled from its tree. -/
def unmarshal (fill : Json → Except GoError α) (bytes : Bytes) : Except GoError α :=
  match Json.parse bytes with
  | some tree => fill tree
  | none => .error syntaxError

end Cosign.Encoding
