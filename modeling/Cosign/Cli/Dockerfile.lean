import Cosign.Encoding.Expand
import Cosign.Go.Outcome

/-!
# Base images of a Dockerfile

`dockerfile verify` takes an image from every line that starts with the letters FROM: it expands the
variables, cuts the line before the last word AS and takes the last word that is left. A line of 64
KiB or more ends the scan with an error.
-/
namespace Cosign.Cli

open Cosign.Go Cosign.Encoding

/-- `bufio.MaxScanTokenSize`: a line and its end fit in a buffer of this size. -/
def maxScanTokenSize : Nat := 64 * 1024

/-- `bufio.ErrTooLong`. -/
def errTooLong : GoError := ⟨"bufio.Scanner: token too long"⟩

/-- `dropCR`. -/
def dropCR (line : Bytes) : Bytes := if line.getLast? = some 13 then line.dropLast else line

/-- The lines of a text, without the line ends; there is none after the last line end. -/
def textLines (content : Bytes) : List Bytes :=
  let pieces := content.splitOn 10
  if pieces.getLast? = some [] then pieces.dropLast else pieces

/-- A line that the scanner can hold. -/
def fitsScanner (line : Bytes) : Bool := line.length < maxScanTokenSize

/-- The lines that `bufio.Scanner` returns. -/
def scannedLines (content : Bytes) : List Bytes :=
  ((textLines content).takeWhile fitsScanner).map dropCR

/-- `fileScanner.Err()`. -/
def scanErr (content : Bytes) : Option GoError :=
  if (textLines content).all fitsScanner then none else some errTooLong

/-- The capital of an ASCII letter. -/
def upperByte (byte : UInt8) : UInt8 := if 97 ≤ byte && byte ≤ 122 then byte - 32 else byte

/-- The text `FROM`. -/
def fromWord : Bytes := [70, 82, 79, 77]

/-- `strings.HasPrefix(strings.ToUpper(line), "FROM")`; no other rune has one of these letters as
its capital. -/
def hasFromPrefix (line : Bytes) : Bool := (line.take 4).map upperByte = fromWord

/-- `strings.EqualFold(field, "AS")`: besides the letters, the long s is a case of S. -/
def isAs : Bytes → Bool
  | [first, second] => upperByte first = 65 && upperByte second = 83
  | [first, second, third] => upperByte first = 65 && second = 0xC5 && third = 0xBF
  | _ => false

/-- `strings.TrimPrefix(line, "FROM")`. -/
def trimFrom (line : Bytes) : Bytes :=
  if line.take 4 = fromWord then line.drop 4 else line

/-- The loop that removes the AS portion, from an index down. -/
def cutAs (fields : List Bytes) : Nat → List Bytes
  | 0 => fields
  | i + 1 => if (fields[i + 1]?).any isAs then fields.take (i + 1) else cutAs fields i

section

variable (getenv : Bytes → Bytes)

/-- The fields that `getImageFromLine` looks at. -/
def lineFields (line : Bytes) : List Bytes := fields (expand getenv (trimFrom line))

/-- `getImageFromLine`. -/
def getImageFromLine (line : Bytes) : Call Bytes :=
  let fields := lineFields getenv line
  match (cutAs fields (fields.length - 1)).getLast? with
  | some image => .ok image
  | none => .error .indexOutOfRange

/-- The text `scratch`. -/
def scratch : Bytes := [115, 99, 114, 97, 116, 99, 104]

/-- One round of the loop over the lines. -/
def scanLine (images : List Bytes) (text : Bytes) : Call (List Bytes) :=
  let line := trimSpace text
  if hasFromPrefix line then do
    let image ← getImageFromLine getenv line
    if image = scratch then .ok images else .ok (images ++ [image])
  else .ok images

/-- `getImagesFromDockerfile` of a file that can be read. -/
def getImagesFromDockerfile (content : Bytes) : Call (Except GoError (List Bytes)) := do
  let images ← (scannedLines content).foldlM (scanLine getenv) []
  match scanErr content with
  | some err => .ok (.error err)
  | none => .ok (.ok images)

end

end Cosign.Cli
