import Cosign.Encoding.Bytes

/-!
# JSON texts and trees

The grammar of `encoding/json`: `parse` reads a text into a tree and `render` writes a tree as
`json.Marshal` does. A tree keeps the order of members and repeated names, because Go decides what
they mean when it fills a value (`Cosign.Encoding.Unmarshal`). A number keeps its literal. Recursion
is on fuel that the text bounds, and on the nesting depth that the scanner bounds.
-/
namespace Cosign.Encoding

/-- A JSON value as the scanner sees it. -/
inductive Json where
  /-- The literal null. -/
  | null
  /-- The literals true and false. -/
  | bool (value : Bool)
  /-- A number, by its literal. -/
  | num (literal : String)
  /-- A string, unquoted. -/
  | str (value : String)
  /-- The elements of an array. -/
  | arr (elements : List Json)
  /-- The members of an object in text order, repeated names included. -/
  | obj (members : List (String × Json))
  deriving Repr

namespace Json

/-- Input left after the blanks of the grammar. -/
def skipSpace : List Char → List Char
  | [] => []
  | char :: rest =>
    if char = ' ' || char = '\t' || char = '\n' || char = '\r' then skipSpace rest
    else char :: rest

/-- Value of four hexadecimal digits. -/
def hex4 (a b c d : Char) : Option Nat := do
  let a ← Hex.value a
  let b ← Hex.value b
  let c ← Hex.value c
  let d ← Hex.value d
  some (((a * 16 + b) * 16 + c) * 16 + d)

/-- The character a one-letter escape stands for. -/
def simpleEscape (char : Char) : Option Char :=
  if char = '"' || char = '\\' || char = '/' then some char
  else if char = 'b' then some (Char.ofNat 8)
  else if char = 'f' then some (Char.ofNat 12)
  else if char = 'n' then some '\n'
  else if char = 'r' then some '\r'
  else if char = 't' then some '\t'
  else none

/-- A high surrogate that no low surrogate has followed becomes one replacement rune. -/
def flush (pending : Option Nat) (rest : List Char) : List Char :=
  if pending.isSome then replacementChar :: rest else rest

/-- The rest of a string after its opening quote: the unquoted characters and the input after
the closing quote. `pending` is a high surrogate waiting for its low half. -/
def stringTail (pending : Option Nat) : List Char → Option (List Char × List Char)
  | [] => none
  | '"' :: rest => some (flush pending [], rest)
  | '\\' :: 'u' :: a :: b :: c :: d :: rest => do
    let code ← hex4 a b c d
    if 0xD800 ≤ code ∧ code < 0xDC00 then
      let (tail, after) ← stringTail (some code) rest
      some (flush pending tail, after)
    else
      let (tail, after) ← stringTail none rest
      match pending with
      | some high =>
        if 0xDC00 ≤ code ∧ code < 0xE000 then
          some (Char.ofNat (0x10000 + (high - 0xD800) * 0x400 + (code - 0xDC00)) :: tail, after)
        else some (replacementChar :: Char.ofNat code :: tail, after)
      | none =>
        if 0xDC00 ≤ code ∧ code < 0xE000 then some (replacementChar :: tail, after)
        else some (Char.ofNat code :: tail, after)
  | '\\' :: char :: rest => do
    let escaped ← simpleEscape char
    let (tail, after) ← stringTail none rest
    some (flush pending (escaped :: tail), after)
  | char :: rest =>
    if char.toNat < 0x20 then none
    else do
      let (tail, after) ← stringTail none rest
      some (flush pending (char :: tail), after)

/-- Split off the decimal digits in front. -/
def digits : List Char → List Char × List Char
  | [] => ([], [])
  | char :: rest =>
    if 48 ≤ char.toNat ∧ char.toNat ≤ 57 then
      match digits rest with
      | (found, after) => (char :: found, after)
    else ([], char :: rest)

/-- An optional fraction: the point and at least one digit. -/
def fraction : List Char → Option (List Char × List Char)
  | '.' :: rest =>
    match digits rest with
    | ([], _) => none
    | (found, after) => some ('.' :: found, after)
  | input => some ([], input)

/-- The digits of an exponent, of which there is at least one. -/
def exponentDigits (lead : List Char) (input : List Char) : Option (List Char × List Char) :=
  match digits input with
  | ([], _) => none
  | (found, after) => some (lead ++ found, after)

/-- An optional exponent with an optional sign. -/
def exponent : List Char → Option (List Char × List Char)
  | mark :: rest =>
    if mark = 'e' || mark = 'E' then
      match rest with
      | '+' :: rest => exponentDigits [mark, '+'] rest
      | '-' :: rest => exponentDigits [mark, '-'] rest
      | rest => exponentDigits [mark] rest
    else some ([], mark :: rest)
  | [] => some ([], [])

/-- The integer part: zero, or digits that do not start with zero. -/
def integer (input : List Char) : Option (List Char × List Char) :=
  match digits input with
  | ([], _) => none
  | ('0' :: more, after) => some (['0'], more ++ after)
  | (found, after) => some (found, after)

/-- A number literal. -/
def number (input : List Char) : Option (Json × List Char) := do
  let (sign, rest) := match input with
    | '-' :: rest => (['-'], rest)
    | rest => ([], rest)
  let (whole, rest) ← integer rest
  let (part, rest) ← fraction rest
  let (power, rest) ← exponent rest
  some (.num (String.ofList (sign ++ whole ++ part ++ power)), rest)

/-- `maxNestingDepth` of the scanner. -/
def maxNestingDepth : Nat := 10000

mutual

/-- A value, after blanks. -/
def value : Nat → Nat → List Char → Option (Json × List Char)
  | 0, _, _ => none
  | fuel + 1, depth, input =>
    match skipSpace input with
    | 'n' :: 'u' :: 'l' :: 'l' :: rest => some (.null, rest)
    | 't' :: 'r' :: 'u' :: 'e' :: rest => some (.bool true, rest)
    | 'f' :: 'a' :: 'l' :: 's' :: 'e' :: rest => some (.bool false, rest)
    | '"' :: rest => do
      let (text, rest) ← stringTail none rest
      some (.str (String.ofList text), rest)
    | '[' :: rest =>
      if depth = 0 then none
      else match skipSpace rest with
        | ']' :: rest => some (.arr [], rest)
        | rest => do
          let (found, rest) ← elements fuel (depth - 1) rest
          some (.arr found, rest)
    | '{' :: rest =>
      if depth = 0 then none
      else match skipSpace rest with
        | '}' :: rest => some (.obj [], rest)
        | rest => do
          let (found, rest) ← members fuel (depth - 1) rest
          some (.obj found, rest)
    | rest => number rest

/-- The elements of an array that has one, up to the closing bracket. -/
def elements : Nat → Nat → List Char → Option (List Json × List Char)
  | 0, _, _ => none
  | fuel + 1, depth, input => do
    let (first, rest) ← value fuel depth input
    match skipSpace rest with
    | ',' :: rest =>
      let (more, rest) ← elements fuel depth rest
      some (first :: more, rest)
    | ']' :: rest => some ([first], rest)
    | _ => none

/-- The members of an object that has one, up to the closing brace. -/
def members : Nat → Nat → List Char → Option (List (String × Json) × List Char)
  | 0, _, _ => none
  | fuel + 1, depth, input =>
    match skipSpace input with
    | '"' :: rest => do
      let (name, rest) ← stringTail none rest
      match skipSpace rest with
      | ':' :: rest =>
        let (first, rest) ← value fuel depth rest
        match skipSpace rest with
        | ',' :: rest =>
          let (more, rest) ← members fuel depth rest
          some ((String.ofList name, first) :: more, rest)
        | '}' :: rest => some ([(String.ofList name, first)], rest)
        | _ => none
      | _ => none
    | _ => none

end

/-- A whole text: one value with nothing but blanks around it. -/
def parseText (input : List Char) : Option Json :=
  match value (2 * input.length + 1) maxNestingDepth input with
  | some (found, rest) => if skipSpace rest = [] then some found else none
  | none => none

/-- The scanner on a byte string; none is a `SyntaxError`. -/
def parse (bytes : Bytes) : Option Json := parseText (utf8Runes bytes)

/-- `Decoder.Decode`: the first value of a text, whatever follows it. -/
def decodeFirst (bytes : Bytes) : Option Json :=
  let input := utf8Runes bytes
  (value (2 * input.length + 1) maxNestingDepth input).map (·.1)

/-- Four lower-case hexadecimal digits of an escape. -/
def escapeCode (code : Nat) : List Char :=
  ['\\', 'u', Hex.digit (code / 4096 % 16), Hex.digit (code / 256 % 16),
    Hex.digit (code / 16 % 16), Hex.digit (code % 16)]

/-- A character inside a string literal, with the escapes of `json.Marshal`. -/
def escapeChar (char : Char) : List Char :=
  if char = '"' || char = '\\' then ['\\', char]
  else if char = '\n' then ['\\', 'n']
  else if char = '\r' then ['\\', 'r']
  else if char = '\t' then ['\\', 't']
  else if char.toNat < 0x20 || char = '<' || char = '>' || char = '&' || char.toNat = 0x2028 ||
      char.toNat = 0x2029 then escapeCode char.toNat
  else [char]

/-- A quoted string literal. -/
def quote (text : String) : List Char := '"' :: (runes text).flatMap escapeChar ++ ['"']

mutual

/-- The text of a tree, without blanks. -/
def render : Json → List Char
  | .null => ['n', 'u', 'l', 'l']
  | .bool true => ['t', 'r', 'u', 'e']
  | .bool false => ['f', 'a', 'l', 's', 'e']
  | .num literal => runes literal
  | .str text => quote text
  | .arr elements => '[' :: renderElements elements ++ [']']
  | .obj members => '{' :: renderMembers members ++ ['}']

/-- Array elements between commas. -/
def renderElements : List Json → List Char
  | [] => []
  | [last] => render last
  | first :: rest => render first ++ ',' :: renderElements rest

/-- Object members between commas. -/
def renderMembers : List (String × Json) → List Char
  | [] => []
  | [(name, last)] => quote name ++ ':' :: render last
  | (name, first) :: rest => quote name ++ ':' :: render first ++ ',' :: renderMembers rest

end

/-- `json.Marshal` of a value whose tree this is. -/
def marshal (tree : Json) : Bytes := (render tree).flatMap String.utf8EncodeChar

end Json

end Cosign.Encoding
