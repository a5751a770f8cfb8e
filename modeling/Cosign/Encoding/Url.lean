import Cosign.Encoding.Bytes
import Cosign.Go.Outcome
import Cosign.Go.Results
import Mathlib.Data.List.Basic
import Mathlib.Data.List.ReduceOption
import Mathlib.Data.List.TakeWhile

/-!
# Percent encoding and queries

Package `net/url` as far as an opaque URL needs it, and `encode`, which writes a text with a table
of bytes that it leaves as they are. What is received of an encoded text is the text, with spaces
for the plus signs that the table lets through (`queryUnescape_encode`); an ampersand that it lets
through ends the value.
-/
namespace Cosign.Encoding.Url

open Cosign.Go

/-- The percent sign, before the two digits of an escaped byte. -/
def percent : UInt8 := 37

/-- The plus sign, for a space in a form value. -/
def plus : UInt8 := 43

/-- The space. -/
def space : UInt8 := 32

/-- The ampersand, between the pairs of a query. -/
def ampersand : UInt8 := 38

/-- The semicolon. -/
def semicolon : UInt8 := 59

/-- The equals sign, between a key and its value. -/
def equals : UInt8 := 61

/-- The question mark, before the query. -/
def question : UInt8 := 63

/-- The slash. -/
def slash : UInt8 := 47

/-- The colon, behind the scheme. -/
def colon : UInt8 := 58

/-- The number sign, before the fragment. -/
def numberSign : UInt8 := 35

/-- `strings.Cut`: what is before the first separator and what is after it. -/
def cut (separator : UInt8) (text : Bytes) : Bytes × Bytes :=
  (text.takeWhile (· ≠ separator), (text.dropWhile (· ≠ separator)).tail)

/-! ## Escaped bytes -/

/-- The byte of a lower-case hexadecimal digit. -/
def hexByte (value : Nat) : UInt8 := UInt8.ofNat (Hex.digit value).toNat

/-- `unhex`, for a byte that `ishex` accepts. -/
def unhex (byte : UInt8) : Option Nat := Hex.value (Char.ofNat byte.toNat)

/-- A byte as a percent sign and two digits. -/
def escapeByte (byte : UInt8) : Bytes :=
  [percent, hexByte (byte.toNat / 16), hexByte (byte.toNat % 16)]

/-- `EscapeError` for what stands at a percent sign. -/
def escapeError (text : Bytes) : GoError :=
  ⟨"invalid URL escape \"" ++ goString (text.take 3) ++ "\""⟩

/-- `QueryUnescape`. -/
def queryUnescape : Bytes → Except GoError Bytes
  | [] => .ok []
  | byte :: rest =>
    if byte = percent then
      match rest with
      | high :: low :: after =>
        match unhex high, unhex low with
        | some upper, some lower =>
          (UInt8.ofNat (upper * 16 + lower) :: ·) <$> queryUnescape after
        | _, _ => .error (escapeError (byte :: rest))
      | _ => .error (escapeError (byte :: rest))
    else ((if byte = plus then space else byte) :: ·) <$> queryUnescape rest

/-! ## Queries -/

/-- One round of the loop of `parseQuery`; an empty piece is skipped. -/
def parsePair (piece : Bytes) : Except GoError (Option (Bytes × Bytes)) :=
  if piece = [] then .ok none
  else do
    let key ← queryUnescape (cut equals piece).1
    let value ← queryUnescape (cut equals piece).2
    .ok (some (key, value))

/-- The loop of `parseQuery`, over a query without a semicolon: the pairs in their order. -/
def parsePairs (query : Bytes) : Except GoError (List (Bytes × Bytes)) := do
  let pairs ← (query.splitOn ampersand).mapM parsePair
  .ok pairs.reduceOption

/-- `ParseQuery`. The error for a semicolon goes before any other. -/
def parseQuery (query : Bytes) : Except GoError (List (Bytes × Bytes)) :=
  if semicolon ∈ query then .error ⟨"invalid semicolon separator in query"⟩ else parsePairs query

/-- `Values.Get`: the first value of a key, or the empty text. -/
def valuesGet (values : List (Bytes × Bytes)) (key : Bytes) : Bytes :=
  ((values.find? (·.1 = key)).map (·.2)).getD []

/-! ## The parts of a URL -/

/-- The parts of a URL that are read. -/
structure Parts where
  scheme : Bytes
  opaquePart : Bytes
  rawQuery : Bytes
  deriving DecidableEq

/-- A byte that `stringContainsCTLByte` looks for. -/
def isControl (byte : UInt8) : Bool := byte < 32 || byte = 127

/-- A letter. -/
def isLetter (byte : UInt8) : Bool := (97 ≤ byte && byte ≤ 122) || (65 ≤ byte && byte ≤ 90)

/-- A byte that can stand in a scheme behind its first letter. -/
def isSchemeByte (byte : UInt8) : Bool :=
  isLetter byte || (48 ≤ byte && byte ≤ 57) || byte = 43 || byte = 45 || byte = 46

/-- The scheme of `getScheme` and what follows its colon; nothing for a text without a scheme. -/
def getScheme (rawURL : Bytes) : Option (Bytes × Bytes) :=
  let scheme := rawURL.takeWhile isSchemeByte
  if scheme.head?.any isLetter ∧ (rawURL.drop scheme.length).head? = some colon then
    some (scheme, rawURL.drop (scheme.length + 1))
  else none

/-- The small form of an ASCII letter. -/
def lowerByte (byte : UInt8) : UInt8 := if 65 ≤ byte && byte ≤ 90 then byte + 32 else byte

/-- `url.Parse` of an opaque URL. A URL with a fragment, without a scheme or with a slash behind the
scheme is not opaque; what it is parsed to is left open. -/
def parse (other : Bytes → Except GoError Parts) (rawURL : Bytes) : Except GoError Parts :=
  if numberSign ∈ rawURL then other rawURL
  else if rawURL.any isControl then
    .error ⟨"parse \"" ++ goString rawURL ++ "\": net/url: invalid control character in URL"⟩
  else
    match getScheme rawURL with
    | none => other rawURL
    | some (scheme, rest) =>
      if rest.head? = some slash then other rawURL
      -- The source treats a lone question mark at the end apart, with the same two parts.
      else .ok ⟨scheme.map lowerByte, (cut question rest).1, (cut question rest).2⟩

/-! ## What is received of an encoded text -/

/-- A text with its bytes escaped, but for those in a table. -/
def encode (allowed text : Bytes) : Bytes :=
  text.flatMap fun byte => if byte ∈ allowed then [byte] else escapeByte byte

/-- A text as it is received: a plus sign that was not escaped is read as a space. -/
def received (allowed text : Bytes) : Bytes :=
  text.map fun byte => if byte = plus ∧ byte ∈ allowed then space else byte

/-- The bytes of an escaped byte. -/
def escapeBytes : Bytes := percent :: (List.range 16).map hexByte

theorem unhex_hexByte : ∀ value < 16, unhex (hexByte value) = some value := by decide

theorem queryUnescape_escapeByte (byte : UInt8) (rest : Bytes) :
    queryUnescape (escapeByte byte ++ rest) = (byte :: ·) <$> queryUnescape rest := by
  have small : byte.toNat < 256 := UInt8.toNat_lt_size byte
  have whole : byte.toNat / 16 * 16 + byte.toNat % 16 = byte.toNat := by omega
  show queryUnescape (percent :: hexByte (byte.toNat / 16) :: hexByte (byte.toNat % 16) :: rest) = _
  rw [queryUnescape, if_pos rfl, unhex_hexByte _ (by omega), unhex_hexByte _ (by omega)]
  simp only [whole, UInt8.ofNat_toNat]

/-- A byte that starts no escape is read as it is, a plus sign as a space. -/
theorem queryUnescape_cons {byte : UInt8} (other : byte ≠ percent) (rest : Bytes) :
    queryUnescape (byte :: rest) =
      ((if byte = plus then space else byte) :: ·) <$> queryUnescape rest :=
  (queryUnescape.eq_def _).trans (if_neg other)

theorem queryUnescape_encode {allowed : Bytes} (escapes : percent ∉ allowed) (text : Bytes) :
    queryUnescape (encode allowed text) = .ok (received allowed text) := by
  induction text with
  | nil => rfl
  | cons byte rest ih =>
    rw [encode, List.flatMap_cons]
    change queryUnescape (_ ++ encode allowed rest) = _
    by_cases raw : byte ∈ allowed
    · have other : byte ≠ percent := fun same => escapes (same ▸ raw)
      rw [if_pos raw, List.singleton_append, queryUnescape_cons other, ih]
      simp [received, raw, Functor.map, Except.map]
    · rw [if_neg raw, queryUnescape_escapeByte, ih]
      simp [received, raw, Functor.map, Except.map]

/-- A text is received unchanged exactly when none of its plus signs is left as it is. -/
theorem received_eq_self_iff {allowed text : Bytes} (raw : plus ∈ allowed) :
    received allowed text = text ↔ plus ∉ text := by
  have differ : space ≠ plus := by decide
  induction text with
  | nil => simp [received]
  | cons byte rest ih =>
    have split : received allowed (byte :: rest) = byte :: rest ↔
        (if byte = plus ∧ byte ∈ allowed then space else byte) = byte ∧
          received allowed rest = rest := List.cons_eq_cons
    rw [split]
    by_cases same : byte = plus
    · simp [same, raw, differ]
    · simp [ih, same, Ne.symm same]

theorem received_nil (text : Bytes) : received [] text = text := by simp [received]

theorem received_eq_nil {allowed text : Bytes} : received allowed text = [] ↔ text = [] :=
  List.map_eq_nil_iff

theorem mem_escapeByte {byte found : UInt8} (listed : found ∈ escapeByte byte) :
    found ∈ escapeBytes := by
  have digit : ∀ value < 16, hexByte value ∈ escapeBytes := by decide
  have small : byte.toNat < 256 := UInt8.toNat_lt_size byte
  rcases List.mem_cons.mp listed with first | listed
  · exact first ▸ List.mem_cons_self
  · rcases List.mem_cons.mp listed with second | listed
    · exact second ▸ digit _ (by omega)
    · exact List.mem_singleton.mp listed ▸ digit _ (by omega)

/-- A byte of an encoded text is one of an escape, or a byte of the text that the table allows. -/
theorem mem_encode {allowed text : Bytes} {found : UInt8} (listed : found ∈ encode allowed text) :
    found ∈ escapeBytes ∨ found ∈ allowed ∧ found ∈ text := by
  obtain ⟨byte, of, listed⟩ := List.mem_flatMap.mp listed
  by_cases raw : byte ∈ allowed
  · rw [if_pos raw, List.mem_singleton] at listed
    exact .inr ⟨listed ▸ raw, listed ▸ of⟩
  · rw [if_neg raw] at listed
    exact .inl (mem_escapeByte listed)

/-- What all bytes of the table and of the escapes satisfy, all bytes of an encoded text satisfy. -/
theorem all_encode {allowed : Bytes} {P : UInt8 → Bool} (escapes : escapeBytes.all P = true)
    (table : allowed.all P = true) (text : Bytes) : (encode allowed text).all P = true := by
  rw [List.all_eq_true] at escapes table ⊢
  intro byte listed
  rcases mem_encode listed with escape | ⟨raw, -⟩
  · exact escapes byte escape
  · exact table byte raw

/-! ## Pairs that are read -/

/-- The first separator is the one behind a text without a separator. -/
theorem cut_append {separator : UInt8} {left : Bytes} (clean : separator ∉ left) (right : Bytes) :
    cut separator (left ++ separator :: right) = (left, right) := by
  have all : ∀ byte ∈ left, decide (byte ≠ separator) = true :=
    fun byte listed => decide_eq_true fun same => clean (same ▸ listed)
  rw [cut, List.takeWhile_append_of_pos all, List.dropWhile_append_of_pos all]
  simp

/-- The pairs on both sides of an ampersand are read one after the other. -/
theorem parsePairs_append {left right : Bytes} {pairs : List (Bytes × Bytes)} :
    parsePairs (left ++ ampersand :: right) = .ok pairs ↔
      ∃ first second, parsePairs left = .ok first ∧ parsePairs right = .ok second ∧
        first ++ second = pairs := by
  unfold parsePairs
  rw [List.splitOn, List.splitOnP_append_cons left right (by simp), List.mapM_append]
  constructor
  · intro read
    obtain ⟨all, read, same⟩ := bind_eq_value.mp read
    obtain ⟨first, readFirst, read⟩ := bind_eq_value.mp read
    obtain ⟨second, readSecond, whole⟩ := bind_eq_value.mp read
    cases whole
    refine ⟨first.reduceOption, second.reduceOption, ?_, ?_, ?_⟩
    · exact bind_eq_value.mpr ⟨first, readFirst, rfl⟩
    · exact bind_eq_value.mpr ⟨second, readSecond, rfl⟩
    · rw [← List.reduceOption_append]
      exact Except.ok.inj same
  · rintro ⟨_, _, readFirst, readSecond, whole⟩
    obtain ⟨first, firstIs, same⟩ := bind_eq_value.mp readFirst
    obtain ⟨second, secondIs, same'⟩ := bind_eq_value.mp readSecond
    refine bind_eq_value.mpr ⟨first ++ second, ?_, ?_⟩
    · exact bind_eq_value.mpr ⟨first, firstIs, bind_eq_value.mpr ⟨second, secondIs, rfl⟩⟩
    · rw [List.reduceOption_append, Except.ok.inj same, Except.ok.inj same', whole]

theorem parsePairs_piece {piece : Bytes} (whole : ampersand ∉ piece) :
    parsePairs piece = (parsePair piece).map Option.toList := by
  have inside : ∀ byte ∈ piece, (byte == ampersand) = false := fun byte listed =>
    beq_eq_false_iff_ne.mpr (ne_of_mem_of_not_mem listed whole)
  have one : piece.splitOn ampersand = [piece] := List.splitOnP_eq_singleton inside
  rw [parsePairs, one, List.mapM_cons, List.mapM_nil]
  cases parsePair piece with
  | error err => rfl
  | ok pair => cases pair <;> rfl

theorem parsePairs_pair {name key encoded value : Bytes} (nameWhole : ampersand ∉ name)
    (keyOnly : equals ∉ name) (keyIs : queryUnescape name = .ok key)
    (valueWhole : ampersand ∉ encoded) (valueIs : queryUnescape encoded = .ok value) :
    parsePairs (name ++ equals :: encoded) = .ok [(key, value)] := by
  have differ : ampersand ≠ equals := by decide
  have whole : ampersand ∉ name ++ equals :: encoded := by
    simp [nameWhole, valueWhole, differ]
  have read : parsePair (name ++ equals :: encoded) = .ok (some (key, value)) := by
    rw [parsePair, if_neg (by simp), cut_append keyOnly, keyIs, valueIs]
    rfl
  rw [parsePairs_piece whole, read]
  rfl

theorem encode_append (allowed left right : Bytes) :
    encode allowed (left ++ right) = encode allowed left ++ encode allowed right :=
  List.flatMap_append

/-- A byte that can stand in a key as it is: a letter, a digit or a minus sign. -/
def isPlain (byte : UInt8) : Bool := isLetter byte || (48 ≤ byte && byte ≤ 57) || byte = 45

/-- A text of plain bytes. -/
def Plain (text : Bytes) : Prop := text.all isPlain = true

/-- Whether a text is plain can be evaluated. -/
instance (text : Bytes) : Decidable (Plain text) := inferInstanceAs (Decidable (_ = true))

theorem Plain.not_mem {text : Bytes} (is : Plain text) {byte : UInt8}
    (other : isPlain byte = false) : byte ∉ text := by
  intro listed
  rw [List.all_eq_true.mp is byte listed] at other
  cases other

theorem Plain.unescape {text : Bytes} (is : Plain text) : queryUnescape text = .ok text := by
  induction text with
  | nil => rfl
  | cons byte rest ih =>
    have noEscape : percent ∉ byte :: rest := is.not_mem rfl
    have noPlus : plus ∉ byte :: rest := is.not_mem rfl
    rw [queryUnescape_cons (ne_of_mem_of_not_mem List.mem_cons_self noEscape),
      if_neg (ne_of_mem_of_not_mem List.mem_cons_self noPlus), ih (Bool.and_eq_true_iff.mp is).2]
    rfl

/-- The value of a plain key is read if no ampersand ends it before. -/
theorem parsePairs_plain {name encoded value : Bytes} (is : Plain name)
    (whole : ampersand ∉ encoded) (valueIs : queryUnescape encoded = .ok value) :
    parsePairs (name ++ equals :: encoded) = .ok [(name, value)] :=
  parsePairs_pair (is.not_mem rfl) (is.not_mem rfl) is.unescape whole valueIs

/-- An encoded text has no ampersand if the table escapes it or the text has none. -/
theorem ampersand_notMem_encode {allowed text : Bytes}
    (clean : ampersand ∉ allowed ∨ ampersand ∉ text) : ampersand ∉ encode allowed text := by
  intro listed
  have digits : ampersand ∉ escapeBytes := by decide
  rcases mem_encode listed with escape | ⟨raw, of⟩
  · exact digits escape
  · exact clean.elim (· raw) (· of)

/-- All of a text is before the first ampersand exactly when it has none. -/
theorem takeWhile_ampersand {text : Bytes} :
    text.takeWhile (· ≠ ampersand) = text ↔ ampersand ∉ text := by
  rw [List.takeWhile_eq_self_iff]
  constructor
  · intro differ listed
    exact of_decide_eq_true (differ ampersand listed) rfl
  · intro clean byte listed
    exact decide_eq_true (ne_of_mem_of_not_mem listed clean)

/-- The first pair that is read has what is before the first ampersand. -/
theorem parsePairs_encode {name allowed text : Bytes} {pairs : List (Bytes × Bytes)}
    (is : Plain name) (escapes : percent ∉ allowed) (raw : ampersand ∈ allowed)
    (read : parsePairs (name ++ equals :: encode allowed text) = .ok pairs) :
    ∃ others, pairs = (name, received allowed (text.takeWhile (· ≠ ampersand))) :: others := by
  by_cases more : ampersand ∈ text
  · obtain ⟨before, after, textIs, clean⟩ := List.eq_append_cons_of_mem more
    have taken : text.takeWhile (· ≠ ampersand) = before :=
      congrArg Prod.fst (textIs ▸ cut_append clean after)
    have split : name ++ equals :: encode allowed text =
        (name ++ equals :: encode allowed before) ++ ampersand :: encode allowed after := by
      rw [textIs, encode_append, encode, encode, encode, List.flatMap_cons, if_pos raw]
      simp
    rw [split] at read
    obtain ⟨first, second, readFirst, -, whole⟩ := parsePairs_append.mp read
    rw [parsePairs_plain is (ampersand_notMem_encode (.inr clean))
      (queryUnescape_encode escapes before)] at readFirst
    rw [taken, ← whole, ← Except.ok.inj readFirst]
    exact ⟨second, rfl⟩
  · rw [parsePairs_plain is (ampersand_notMem_encode (.inr more))
      (queryUnescape_encode escapes text)] at read
    rw [takeWhile_ampersand.mpr more, ← Except.ok.inj read]
    exact ⟨[], rfl⟩

/-- What is before the first ampersand is received as the whole text exactly when the text has no
ampersand and no plus sign. -/
theorem received_takeWhile_eq_self_iff {allowed text : Bytes} (raw : plus ∈ allowed) :
    received allowed (text.takeWhile (· ≠ ampersand)) = text ↔
      plus ∉ text ∧ ampersand ∉ text := by
  constructor
  · intro same
    have lengths : (text.takeWhile (· ≠ ampersand)).length = text.length := by
      have lengths := congrArg List.length same
      rwa [received, List.length_map] at lengths
    have whole := (List.takeWhile_prefix (l := text) (· ≠ ampersand)).eq_of_length lengths
    rw [whole, received_eq_self_iff raw] at same
    exact ⟨same, takeWhile_ampersand.mp whole⟩
  · intro ⟨noPlus, noAmpersand⟩
    rw [takeWhile_ampersand.mpr noAmpersand, received_eq_self_iff raw]
    exact noPlus

theorem valuesGet_append {values others : List (Bytes × Bytes)} {key : Bytes}
    (other : ∀ pair ∈ values, pair.1 ≠ key) :
    valuesGet (values ++ others) key = valuesGet others key := by
  have absent : values.find? (·.1 = key) = none :=
    List.find?_eq_none.mpr fun pair listed => by simpa using other pair listed
  rw [valuesGet, List.find?_append, absent, Option.none_or, valuesGet]

theorem valuesGet_cons (key value : Bytes) (others : List (Bytes × Bytes)) :
    valuesGet ((key, value) :: others) key = value := by
  simp [valuesGet]

/-! ## An opaque URL -/

/-- A byte that ends neither the parsing of a URL nor its query. -/
def isQueryByte (byte : UInt8) : Bool := !isControl byte && byte ≠ numberSign

/-- A URL without a fragment whose path does not start with a slash is taken apart. -/
theorem parse_opaque (other : Bytes → Except GoError Parts) {scheme path query : Bytes}
    (letter : scheme.head?.any isLetter = true) (named : scheme.all isSchemeByte = true)
    (allowed : (scheme ++ colon :: (path ++ question :: query)).all isQueryByte = true)
    (rootless : path.head? ≠ some slash) (one : question ∉ path) :
    parse other (scheme ++ colon :: (path ++ question :: query)) =
      .ok ⟨scheme.map lowerByte, path, query⟩ := by
  have noControl : (scheme ++ colon :: (path ++ question :: query)).any isControl = false :=
    List.any_eq_false.mpr fun byte listed control => by
      have is := List.all_eq_true.mp allowed byte listed
      simp [isQueryByte, control] at is
  have noFragment : numberSign ∉ scheme ++ colon :: (path ++ question :: query) :=
    fun listed => by
      have is := List.all_eq_true.mp allowed numberSign listed
      simp [isQueryByte] at is
  have ends : isSchemeByte colon = false := rfl
  have taken :
      (scheme ++ colon :: (path ++ question :: query)).takeWhile isSchemeByte = scheme := by
    rw [List.takeWhile_append_of_pos (List.all_eq_true.mp named),
      List.takeWhile_cons_of_neg (by simp [ends]), List.append_nil]
  have schemeIs : getScheme (scheme ++ colon :: (path ++ question :: query)) =
      some (scheme, path ++ question :: query) := by
    simp [getScheme, taken, letter]
  have relative : (path ++ question :: query).head? ≠ some slash := by
    cases path with
    | nil => exact nofun
    | cons byte rest => exact rootless
  rw [parse, if_neg noFragment, if_neg (by simp [noControl]), schemeIs]
  simp only [if_neg relative, cut_append one]

end Cosign.Encoding.Url
