import Mathlib.Logic.Basic

/-!
# Byte strings, hexadecimal, base64 and UTF-8

The byte-level formats of Go's standard library that the modelled packages call: `hex`, `base64` and
the conversions between `[]byte` and `string`. All are structurally recursive, so a concrete text
evaluates in the kernel.
-/
namespace Cosign.Encoding

/-- A Go `[]byte`; nil and empty slices are not told apart. -/
abbrev Bytes : Type := List UInt8

/-- `[]byte(text)`. -/
def utf8Bytes (text : String) : Bytes := text.toByteArray.data.toList

/-- A byte that continues a UTF-8 sequence, no lower and no higher than the given bounds. -/
def isTail (low high byte : UInt8) : Bool := low ≤ byte && byte ≤ high

/-- Payload bits of a continuation byte. -/
def tailBits (byte : UInt8) : Nat := byte.toNat % 64

/-- The rune Go substitutes for every byte that starts no valid UTF-8 sequence. -/
def replacementChar : Char := Char.ofNat 0xFFFD

/-- `string(bytes)` read rune by rune: a byte that starts no valid sequence is one
replacement rune, as in `utf8.DecodeRune`. -/
def utf8Runes : Bytes → List Char
  | [] => []
  | lead :: rest =>
    if lead < 0x80 then Char.ofNat lead.toNat :: utf8Runes rest
    else match rest with
      | [] => [replacementChar]
      | second :: rest₂ =>
        if isTail 0xC2 0xDF lead && isTail 0x80 0xBF second then
          Char.ofNat (lead.toNat % 32 * 64 + tailBits second) :: utf8Runes rest₂
        else match rest₂ with
          | [] => replacementChar :: utf8Runes [second]
          | third :: rest₃ =>
            let low := if lead = 0xE0 then 0xA0 else 0x80
            let high := if lead = 0xED then 0x9F else 0xBF
            if isTail 0xE0 0xEF lead && isTail low high second && isTail 0x80 0xBF third then
              Char.ofNat (lead.toNat % 16 * 4096 + tailBits second * 64 + tailBits third) ::
                utf8Runes rest₃
            else match rest₃ with
              | [] => replacementChar :: utf8Runes [second, third]
              | fourth :: rest₄ =>
                let low := if lead = 0xF0 then 0x90 else 0x80
                let high := if lead = 0xF4 then 0x8F else 0xBF
                if isTail 0xF0 0xF4 lead && isTail low high second && isTail 0x80 0xBF third &&
                    isTail 0x80 0xBF fourth then
                  Char.ofNat (lead.toNat % 8 * 262144 + tailBits second * 4096 +
                    tailBits third * 64 + tailBits fourth) :: utf8Runes rest₄
                else replacementChar :: utf8Runes (second :: third :: fourth :: rest₄)

/-- The runes that ranging over a string visits. -/
def runes (text : String) : List Char := utf8Runes (utf8Bytes text)

/-- `string(bytes)`, with replacement runes for what is no UTF-8. -/
def goString (bytes : Bytes) : String := String.ofList (utf8Runes bytes)

namespace Hex

/-- Lower-case digit of a value below sixteen. -/
def digit (value : Nat) : Char :=
  if value < 10 then Char.ofNat (value + 48) else Char.ofNat (value + 87)

/-- Value of a digit of either case. -/
def value (char : Char) : Option Nat :=
  let code := char.toNat
  if 48 ≤ code ∧ code ≤ 57 then some (code - 48)
  else if 97 ≤ code ∧ code ≤ 102 then some (code - 87)
  else if 65 ≤ code ∧ code ≤ 70 then some (code - 55)
  else none

/-- `hex.EncodeToString`. -/
def encodeToString (bytes : Bytes) : String :=
  String.ofList (bytes.flatMap fun byte => [digit (byte.toNat / 16), digit (byte.toNat % 16)])

/-- The bytes `hex.DecodeString` returns: those decoded before the first character that is no
digit, or before an unpaired last one. -/
def decodePrefix : List Char → Bytes
  | high :: low :: rest =>
    match value high, value low with
    | some left, some right => UInt8.ofNat (left * 16 + right) :: decodePrefix rest
    | _, _ => []
  | _ => []

/-- The first result of `hex.DecodeString`, which is returned beside an error too. -/
def decodeString (text : String) : Bytes := decodePrefix (runes text)

end Hex

namespace Base64

/-- Six bits of a letter or decimal digit, common to both alphabets. -/
def alphanumeric (char : Char) : Option Nat :=
  let code := char.toNat
  if 65 ≤ code ∧ code ≤ 90 then some (code - 65)
  else if 97 ≤ code ∧ code ≤ 122 then some (code - 71)
  else if 48 ≤ code ∧ code ≤ 57 then some (code + 4)
  else none

/-- The alphabet of `base64.StdEncoding`. -/
def stdSextet (char : Char) : Option Nat :=
  if char = '+' then some 62 else if char = '/' then some 63 else alphanumeric char

/-- The alphabet of `base64.URLEncoding`. -/
def urlSextet (char : Char) : Option Nat :=
  if char = '-' then some 62 else if char = '_' then some 63 else alphanumeric char

/-- Padded quanta of four characters. Padding ends the text; the bits it cuts off are not
looked at, since neither encoding is strict. -/
def decodeQuanta (sextet : Char → Option Nat) : List Char → Option Bytes
  | [] => some []
  | first :: second :: third :: fourth :: rest => do
    let a ← sextet first
    let b ← sextet second
    let byte₁ := UInt8.ofNat (a * 4 + b / 16)
    if fourth = '=' then
      if rest ≠ [] then none
      else if third = '=' then some [byte₁]
      else
        let c ← sextet third
        some [byte₁, UInt8.ofNat (b % 16 * 16 + c / 4)]
    else
      let c ← sextet third
      let d ← sextet fourth
      let tail ← decodeQuanta sextet rest
      some (byte₁ :: UInt8.ofNat (b % 16 * 16 + c / 4) :: UInt8.ofNat (c % 4 * 64 + d) :: tail)
  | _ => none

/-- Line breaks are skipped wherever they stand. -/
def dropBreaks (text : String) : List Char :=
  (runes text).filter fun char => char ≠ '\n' && char ≠ '\r'

/-- `base64.StdEncoding.DecodeString`; none is a `CorruptInputError`. -/
def stdDecode (text : String) : Option Bytes := decodeQuanta stdSextet (dropBreaks text)

/-- `base64.StdEncoding.DecodeString(string(bytes))`. A byte that is no character of the
alphabet is corrupt input, whether it is valid UTF-8 or not. -/
def stdDecodeRaw (bytes : Bytes) : Option Bytes :=
  decodeQuanta stdSextet ((utf8Runes bytes).filter fun char => char ≠ '\n' && char ≠ '\r')

/-- `base64.URLEncoding.DecodeString`; none is a `CorruptInputError`. -/
def urlDecode (text : String) : Option Bytes := decodeQuanta urlSextet (dropBreaks text)

/-- Character of six bits in the standard alphabet. -/
def stdChar (value : Nat) : Char :=
  if value < 26 then Char.ofNat (value + 65)
  else if value < 52 then Char.ofNat (value + 71)
  else if value < 62 then Char.ofNat (value - 4)
  else if value = 62 then '+' else '/'

/-- Padded quanta of a byte string. -/
def encodeQuanta : Bytes → List Char
  | [] => []
  | [a] => [stdChar (a.toNat / 4), stdChar (a.toNat % 4 * 16), '=', '=']
  | [a, b] =>
    [stdChar (a.toNat / 4), stdChar (a.toNat % 4 * 16 + b.toNat / 16),
      stdChar (b.toNat % 16 * 4), '=']
  | a :: b :: c :: rest =>
    stdChar (a.toNat / 4) :: stdChar (a.toNat % 4 * 16 + b.toNat / 16) ::
      stdChar (b.toNat % 16 * 4 + c.toNat / 64) :: stdChar (c.toNat % 64) :: encodeQuanta rest

/-- `base64.StdEncoding.EncodeToString`. -/
def stdEncode (bytes : Bytes) : String := String.ofList (encodeQuanta bytes)

theorem stdEncode_eq_empty {bytes : Bytes} : stdEncode bytes = "" ↔ bytes = [] := by
  unfold stdEncode
  rw [String.ofList_eq_empty_iff]
  match bytes with
  | [] => simp [encodeQuanta]
  | [a] => simp [encodeQuanta]
  | [a, b] => simp [encodeQuanta]
  | a :: b :: c :: rest => simp [encodeQuanta]

end Base64

end Cosign.Encoding
