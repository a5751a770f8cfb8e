import Cosign.Encoding.Decimal
import Cosign.Pkcs11.Uri
import Mathlib.Tactic.IntervalCases

/-!
# What a PKCS#11 URI conveys

`Construct` leaves the plus sign and, in the labels, the ampersand as they are, but `Parse` reads a
plus sign as a space and an ampersand as the end of a value. A configuration is read back from its
URI exactly when none of its texts has such a byte (`uri_round_trip_iff`). Writer and reader are
followed one attribute at a time.
-/
namespace Cosign.Verif

open Cosign.Go Cosign.Encoding Cosign.Encoding.Url Cosign.Pkcs11

variable {conf : Pkcs11UriConfig} {uri : Bytes} {name label : Bytes}

/-! ## What is written -/

/-- An attribute of the URI behind its separator; nothing for an empty value. -/
def attributeText (lead name value encoded : Bytes) : Bytes :=
  if value = [] then [] else lead ++ (name ++ equals :: encoded)

/-- The attributes of the token and the key, with a separator before all but the first. -/
def pathText (separator : UInt8) (conf : Pkcs11UriConfig) : Bytes :=
  attributeText [] (utf8Bytes "token") conf.tokenLabel
      (encode pathAttrValueChars conf.tokenLabel) ++
    attributeText [separator] (utf8Bytes "slot-id") (slotText conf.slotID)
      (slotText conf.slotID) ++
    attributeText [separator] (utf8Bytes "id") conf.keyID (encode [] conf.keyID) ++
    attributeText [separator] (utf8Bytes "object") conf.keyLabel
      (encode pathAttrValueChars conf.keyLabel)

/-- The query of the URI. -/
def queryText (conf : Pkcs11UriConfig) : Bytes :=
  utf8Bytes "module-path" ++ equals :: encode queryAttrValueChars conf.modulePath ++
    attributeText [ampersand] (utf8Bytes "pin-value") conf.pin
      (encode queryAttrValueChars conf.pin)

/-- The table of the labels lets plus signs and ampersands through, but no percent sign. -/
theorem pathAttrValueChars_marks :
    percent ∉ pathAttrValueChars ∧ plus ∈ pathAttrValueChars ∧ ampersand ∈ pathAttrValueChars := by
  decide +kernel

/-- The table of the query lets plus signs through, but neither percent signs nor ampersands. -/
theorem queryAttrValueChars_marks :
    percent ∉ queryAttrValueChars ∧ plus ∈ queryAttrValueChars ∧
      ampersand ∉ queryAttrValueChars := by
  decide +kernel

theorem encodeURIComponent_eq (text : Bytes) (isForPath : Bool) :
    encodeURIComponent text isForPath true = .ok (encode (allowedChars isForPath) text) := by
  have each : encodeByte (allowedChars isForPath) true = fun byte =>
      pure (if byte ∈ allowedChars isForPath then [byte] else escapeByte byte) := by
    funext byte
    by_cases raw : byte ∈ allowedChars isForPath
    · simp [encodeByte, raw, pure, Except.pure]
    · simp [encodeByte, raw, percentEncode, pure, Except.pure]
  rw [encodeURIComponent, each, List.mapM_pure]
  rfl

theorem percentEncode_eq (input : Bytes) : percentEncode input = encode [] input := by
  simp [percentEncode, encode]

theorem encodedAttribute_eq {lead : String} (start name value : Bytes) (isForPath : Bool)
    (message : String) (leadIs : utf8Bytes lead = start ++ (name ++ [equals])) :
    encodedAttribute lead value isForPath message =
      .ok (attributeText start name value (encode (allowedChars isForPath) value)) := by
  rw [encodedAttribute, attributeText, encodeURIComponent_eq, leadIs]
  by_cases empty : value = []
  · rw [if_pos empty, if_pos empty]
  · rw [if_neg empty, if_neg empty]
    simp [Except.mapError, bind, Except.bind]

theorem plain_utf8EncodeChar {char : Char} (is : Json.IsDigit char ∨ char = '-') :
    Plain (String.utf8EncodeChar char) := by
  rcases is with ⟨low, high⟩ | minus
  · have same : Char.ofNat char.toNat = char := Char.ofNat_toNat char
    rw [← same]
    interval_cases char.toNat <;> decide
  · rw [minus]
    decide

theorem plain_slotText (slotID : Option Int64) : Plain (slotText slotID) := by
  cases slotID with
  | none => rfl
  | some slot =>
    apply List.all_eq_true.mpr
    intro byte listed
    change byte ∈ utf8Bytes (toString slot) at listed
    rw [utf8Bytes_eq, List.mem_flatMap] at listed
    obtain ⟨char, inside, listed⟩ := listed
    exact List.all_eq_true.mp (plain_utf8EncodeChar (isDigit_or_minus inside)) byte listed

theorem slotText_eq_nil {slotID : Option Int64} : slotText slotID = [] ↔ slotID = none := by
  cases slotID with
  | none => simp [slotText]
  | some slot =>
    have nonempty : slotText (some slot) ≠ [] := by
      intro empty
      have parsed := parseInt64_toString slot
      rw [← goString_utf8Bytes (toString slot)] at parsed
      change parseInt64 (goString (slotText (some slot))) = some slot at parsed
      rw [empty] at parsed
      cases parsed
    simp [nonempty]

theorem readSlotID_slotText (slotID : Option Int64) :
    readSlotID (slotText slotID) = .ok slotID := by
  cases slotID with
  | none => rfl
  | some slot =>
    have nonempty : slotText (some slot) ≠ [] := slotText_eq_nil.not.mpr nofun
    have noPlus : plus ∉ slotText (some slot) := (plain_slotText (some slot)).not_mem rfl
    have unsigned : (slotText (some slot)).head? ≠ some plus :=
      fun same => noPlus (List.mem_of_head? same)
    have parsed : atoi (slotText (some slot)) = some slot := by
      rw [atoi, if_neg unsigned]
      change parseInt64 (goString (utf8Bytes (toString slot))) = some slot
      rw [goString_utf8Bytes, parseInt64_toString]
    rw [readSlotID, if_neg nonempty, parsed]

theorem construct_eq_ok (constructed : conf.construct = .ok uri) :
    conf.modulePath ≠ [] ∧ ¬(conf.keyLabel = [] ∧ conf.keyID = []) ∧
      ¬(conf.tokenLabel = [] ∧ conf.slotID = none) ∧
      utf8Bytes "pkcs11" ++ colon :: (pathText semicolon conf ++ question :: queryText conf) =
        uri := by
  unfold Pkcs11UriConfig.construct at constructed
  split at constructed
  · cases constructed
  rename_i hasModule
  split at constructed
  · cases constructed
  rename_i hasKey
  split at constructed
  · cases constructed
  rename_i hasToken
  refine ⟨hasModule, hasKey, hasToken, ?_⟩
  have slotIs : (if conf.slotID = none then []
      else utf8Bytes ";slot-id=" ++ slotText conf.slotID) =
      attributeText [semicolon] (utf8Bytes "slot-id") (slotText conf.slotID)
        (slotText conf.slotID) := by
    simp only [attributeText, slotText_eq_nil]
    rfl
  have idIs : (if conf.keyID = [] then [] else utf8Bytes ";id=" ++ percentEncode conf.keyID) =
      attributeText [semicolon] (utf8Bytes "id") conf.keyID (encode [] conf.keyID) := by
    rw [percentEncode_eq]
    rfl
  rw [encodedAttribute_eq [] (utf8Bytes "token") _ _ _ rfl,
    encodedAttribute_eq [semicolon] (utf8Bytes "object") _ _ _ rfl, encodeURIComponent_eq,
    encodedAttribute_eq [ampersand] (utf8Bytes "pin-value") _ _ _ rfl, slotIs, idIs] at constructed
  have moduleIs : utf8Bytes "?module-path=" = question :: (utf8Bytes "module-path" ++ [equals]) :=
    rfl
  have schemeIs : utf8Bytes "pkcs11:" = utf8Bytes "pkcs11" ++ [colon] := rfl
  rw [← Except.ok.inj constructed, moduleIs, schemeIs]
  simp [pathText, queryText, allowedChars]

/-! ## The bytes of the URI -/

/-- What holds of the separator, the name and the encoded value holds of the attribute. -/
theorem all_attributeText {P : UInt8 → Bool} {lead name encoded : Bytes} (value : Bytes)
    (leads : lead.all P = true) (named : (name ++ [equals]).all P = true)
    (inside : encoded.all P = true) : (attributeText lead name value encoded).all P = true := by
  unfold attributeText
  split
  · rfl
  · rw [List.append_cons, List.all_append, List.all_append, leads, named, inside]
    rfl

/-- A byte that neither ends the path of an opaque URL nor shows a path that is not opaque. -/
def isPathByte (byte : UInt8) : Bool := isQueryByte byte && byte ≠ question && byte ≠ slash

theorem isPathByte_of_isPlain {byte : UInt8} (is : isPlain byte = true) :
    isPathByte byte = true := by
  by_contra other
  have cases : byte < 32 ∨ byte = 127 ∨ byte = numberSign ∨ byte = question ∨
      byte = slash := by
    by_contra rest
    simp only [not_or] at rest
    exact other (by simp [isPathByte, isQueryByte, isControl, rest])
  simp only [isPlain, isLetter, numberSign, question, slash, Bool.or_eq_true, Bool.and_eq_true,
    decide_eq_true_eq, UInt8.le_iff_toNat_le, UInt8.lt_iff_toNat_lt, ← UInt8.toNat_inj,
    UInt8.reduceToNat] at is cases
  omega

theorem isPathByte_pathText (conf : Pkcs11UriConfig) :
    (pathText semicolon conf).all isPathByte = true := by
  have escapes : escapeBytes.all isPathByte = true := by decide +kernel
  have table : pathAttrValueChars.all isPathByte = true := by decide +kernel
  have slot : (slotText conf.slotID).all isPathByte = true :=
    List.all_eq_true.mpr fun byte listed =>
      isPathByte_of_isPlain (List.all_eq_true.mp (plain_slotText conf.slotID) byte listed)
  rw [pathText, List.all_append, List.all_append, List.all_append,
    all_attributeText _ rfl rfl (all_encode escapes table conf.tokenLabel),
    all_attributeText _ rfl rfl slot,
    all_attributeText _ rfl rfl (all_encode escapes rfl conf.keyID),
    all_attributeText _ rfl rfl (all_encode escapes table conf.keyLabel)]
  rfl

/-- The query of a constructed URI has no byte that `url.Parse` stops at, and no semicolon. -/
theorem isQueryByte_queryText (conf : Pkcs11UriConfig) :
    (queryText conf).all (fun byte => isQueryByte byte && byte ≠ semicolon) = true := by
  have escapes : escapeBytes.all (fun byte => isQueryByte byte && byte ≠ semicolon) = true := by
    decide +kernel
  have table :
      queryAttrValueChars.all (fun byte => isQueryByte byte && byte ≠ semicolon) = true := by
    decide +kernel
  have named : (utf8Bytes "module-path" ++ [equals]).all
      (fun byte => isQueryByte byte && byte ≠ semicolon) = true := rfl
  rw [queryText, List.append_cons, List.all_append, List.all_append, named,
    all_encode escapes table conf.modulePath,
    all_attributeText _ rfl rfl (all_encode escapes table conf.pin)]
  rfl

/-! ## What is read -/

theorem replaceSemicolons_eq_self {text : Bytes} (clean : semicolon ∉ text) :
    replaceSemicolons text = text := by
  have each : ∀ byte ∈ text, (if byte = semicolon then ampersand else byte) = byte :=
    fun byte listed => if_neg (ne_of_mem_of_not_mem listed clean)
  exact (List.map_congr_left each).trans (List.map_id' text)

theorem semicolon_notMem_replaceSemicolons (text : Bytes) : semicolon ∉ replaceSemicolons text := by
  intro listed
  obtain ⟨byte, -, same⟩ := List.mem_map.mp listed
  by_cases is : byte = semicolon
  · rw [if_pos is] at same
    exact absurd same (by decide)
  · rw [if_neg is] at same
    exact is same

theorem replaceSemicolons_attributeText {lead name value encoded : Bytes} (is : Plain name)
    (clean : semicolon ∉ encoded) :
    replaceSemicolons (attributeText lead name value encoded) =
      attributeText (replaceSemicolons lead) name value encoded := by
  have rest : semicolon ∉ name ++ equals :: encoded := by
    have differ : semicolon ≠ equals := by decide
    have outside : semicolon ∉ name := is.not_mem rfl
    simp [outside, differ, clean]
  unfold attributeText
  split
  · rfl
  · rw [replaceSemicolons, List.map_append]
    exact congrArg (replaceSemicolons lead ++ ·) (replaceSemicolons_eq_self rest)

theorem replaceSemicolons_pathText (conf : Pkcs11UriConfig) :
    replaceSemicolons (pathText semicolon conf) = pathText ampersand conf := by
  have escapes : semicolon ∉ escapeBytes := by decide
  have table : semicolon ∉ pathAttrValueChars := by decide +kernel
  have label : ∀ text, semicolon ∉ encode pathAttrValueChars text := fun text listed =>
    (mem_encode listed).elim escapes fun raw => table raw.1
  have escaped : semicolon ∉ encode [] conf.keyID := fun listed =>
    (mem_encode listed).elim escapes fun raw => nomatch raw.1
  have slot : semicolon ∉ slotText conf.slotID := (plain_slotText conf.slotID).not_mem rfl
  have append : ∀ left right,
      replaceSemicolons (left ++ right) = replaceSemicolons left ++ replaceSemicolons right :=
    fun left right => List.map_append
  rw [pathText, append, append, append,
    replaceSemicolons_attributeText (by decide) (label conf.tokenLabel),
    replaceSemicolons_attributeText (by decide) slot,
    replaceSemicolons_attributeText (by decide) escaped,
    replaceSemicolons_attributeText (by decide) (label conf.keyLabel)]
  rfl

/-- `url.Parse` takes a constructed URI apart at the question mark. -/
theorem parse_uri (other : Bytes → Except GoError Parts) (constructed : conf.construct = .ok uri) :
    Url.parse other uri =
      .ok ⟨utf8Bytes "pkcs11", pathText semicolon conf, queryText conf⟩ := by
  obtain ⟨-, -, -, uriIs⟩ := construct_eq_ok constructed
  have inPath := List.all_eq_true.mp (isPathByte_pathText conf)
  have pathAllowed : (pathText semicolon conf).all isQueryByte = true :=
    List.all_eq_true.mpr fun byte listed => by
      have is := inPath byte listed
      simp only [isPathByte, Bool.and_eq_true] at is
      exact is.1.1
  have queryAllowed : (queryText conf).all isQueryByte = true :=
    List.all_eq_true.mpr fun byte listed =>
      (Bool.and_eq_true_iff.mp (List.all_eq_true.mp (isQueryByte_queryText conf) byte listed)).1
  have allowed : (utf8Bytes "pkcs11" ++
      colon :: (pathText semicolon conf ++ question :: queryText conf)).all isQueryByte = true := by
    rw [List.all_append, List.all_cons, List.all_append, List.all_cons, pathAllowed, queryAllowed]
    rfl
  have noQuestion : question ∉ pathText semicolon conf :=
    fun listed => absurd (inPath question listed) (by decide)
  have noSlash : slash ∉ pathText semicolon conf :=
    fun listed => absurd (inPath slash listed) (by decide)
  rw [← uriIs, parse_opaque other rfl rfl allowed
    (fun same => noSlash (List.mem_of_head? same)) noQuestion]
  rfl

theorem parseQuery_queryText (conf : Pkcs11UriConfig) :
    parseQuery (replaceSemicolons (queryText conf)) = parsePairs (queryText conf) := by
  have clean : semicolon ∉ queryText conf := fun listed =>
    absurd (List.all_eq_true.mp (isQueryByte_queryText conf) semicolon listed) (by decide)
  rw [replaceSemicolons_eq_self clean, parseQuery, if_neg clean]

/-- The path of a constructed URI is read with ampersands for its semicolons. -/
theorem parseQuery_pathText (conf : Pkcs11UriConfig) :
    parseQuery (replaceSemicolons (pathText semicolon conf)) =
      parsePairs (pathText ampersand conf) := by
  rw [parseQuery, if_neg (semicolon_notMem_replaceSemicolons _), replaceSemicolons_pathText]

/-- A constructed URI is read as the pairs of its path and its query. -/
theorem parse_constructed (getenv : String → Bytes) (other : Bytes → Except GoError Parts)
    {conf read : Pkcs11UriConfig} (constructed : conf.construct = .ok uri) :
    Pkcs11UriConfig.parse getenv other uri = .ok read ↔
      ∃ path query, parsePairs (pathText ampersand conf) = .ok path ∧
        parsePairs (queryText conf) = .ok query ∧ readAttributes getenv path query = .ok read := by
  simp only [Pkcs11UriConfig.parse, bind_eq_value, mapError_eq_ok, parse_uri other constructed,
    Except.ok.injEq, exists_eq_left', ne_eq, not_true_eq_false, if_false, parseQuery_pathText,
    parseQuery_queryText, exists_and_left]

/-! ## The pairs of the attributes -/

/-- The pairs that are read from an attribute. -/
def sentPairs (name value encoded : Bytes) : Except GoError (List (Bytes × Bytes)) :=
  if value = [] then .ok [] else parsePairs (name ++ equals :: encoded)

/-- The pair of a value that is not empty. -/
def pairOf (name value : Bytes) : List (Bytes × Bytes) :=
  if value = [] then [] else [(name, value)]

theorem parsePairs_attributeText {left name value encoded : Bytes}
    {pairs : List (Bytes × Bytes)} :
    parsePairs (left ++ attributeText [ampersand] name value encoded) = .ok pairs ↔
      ∃ first second, parsePairs left = .ok first ∧ sentPairs name value encoded = .ok second ∧
        first ++ second = pairs := by
  unfold attributeText sentPairs
  by_cases empty : value = []
  · simp [empty]
  · simp only [if_neg empty, List.singleton_append]
    exact parsePairs_append

theorem parsePairs_first (name value encoded : Bytes) :
    parsePairs (attributeText [] name value encoded) = sentPairs name value encoded := by
  unfold attributeText sentPairs
  by_cases empty : value = []
  · rw [if_pos empty, if_pos empty]
    rfl
  · rw [if_neg empty, if_neg empty, List.nil_append]

theorem sentPairs_eq {name value encoded decoded : Bytes} (is : Plain name)
    (whole : ampersand ∉ encoded) (valueIs : queryUnescape encoded = .ok decoded)
    (same : value = [] ↔ decoded = []) :
    sentPairs name value encoded = .ok (pairOf name decoded) := by
  unfold sentPairs pairOf
  by_cases empty : value = []
  · rw [if_pos empty, if_pos (same.mp empty)]
  · rw [if_neg empty, if_neg (same.not.mp empty), parsePairs_plain is whole valueIs]

theorem sentPairs_label (is : Plain name) (whole : ampersand ∉ label) :
    sentPairs name label (encode pathAttrValueChars label) =
      .ok (pairOf name (received pathAttrValueChars label)) :=
  sentPairs_eq is (ampersand_notMem_encode (.inr whole))
    (queryUnescape_encode pathAttrValueChars_marks.1 label) received_eq_nil.symm

/-- The first pair of a label has what is before its first ampersand. -/
theorem sentPairs_label_first {pairs : List (Bytes × Bytes)} (is : Plain name)
    (nonempty : label ≠ [])
    (read : sentPairs name label (encode pathAttrValueChars label) = .ok pairs) :
    ∃ others, pairs =
      (name, received pathAttrValueChars (label.takeWhile (· ≠ ampersand))) :: others := by
  rw [sentPairs, if_neg nonempty] at read
  exact parsePairs_encode is pathAttrValueChars_marks.1 pathAttrValueChars_marks.2.2 read

/-- The pairs of the path: the slot and the key id are always read as they were written. -/
theorem parsePairs_pathText {path : List (Bytes × Bytes)} :
    parsePairs (pathText ampersand conf) = .ok path ↔
      ∃ token label,
        sentPairs (utf8Bytes "token") conf.tokenLabel
          (encode pathAttrValueChars conf.tokenLabel) = .ok token ∧
        sentPairs (utf8Bytes "object") conf.keyLabel
          (encode pathAttrValueChars conf.keyLabel) = .ok label ∧
        token ++ pairOf (utf8Bytes "slot-id") (slotText conf.slotID) ++
          pairOf (utf8Bytes "id") conf.keyID ++ label = path := by
  have plainSlot := plain_slotText conf.slotID
  have slot : sentPairs (utf8Bytes "slot-id") (slotText conf.slotID) (slotText conf.slotID) =
      .ok (pairOf (utf8Bytes "slot-id") (slotText conf.slotID)) :=
    sentPairs_eq (by decide) (plainSlot.not_mem rfl) plainSlot.unescape Iff.rfl
  have decoded : queryUnescape (encode [] conf.keyID) = .ok conf.keyID := by
    rw [queryUnescape_encode (by decide), received_nil]
  have id : sentPairs (utf8Bytes "id") conf.keyID (encode [] conf.keyID) =
      .ok (pairOf (utf8Bytes "id") conf.keyID) :=
    sentPairs_eq (by decide) (ampersand_notMem_encode (.inl (by decide))) decoded Iff.rfl
  simp only [pathText, parsePairs_attributeText, parsePairs_first, slot, id, Except.ok.injEq]
  constructor
  · rintro ⟨_, label, ⟨_, _, ⟨token, _, readToken, rfl, rfl⟩, rfl, rfl⟩, readLabel, whole⟩
    exact ⟨token, label, readToken, readLabel, whole⟩
  · rintro ⟨token, label, readToken, readLabel, whole⟩
    exact ⟨_, label, ⟨_, _, ⟨token, _, readToken, rfl, rfl⟩, rfl, rfl⟩, readLabel, whole⟩

theorem parsePairs_queryText (conf : Pkcs11UriConfig) :
    parsePairs (queryText conf) =
      .ok ((utf8Bytes "module-path", received queryAttrValueChars conf.modulePath) ::
        pairOf (utf8Bytes "pin-value") (received queryAttrValueChars conf.pin)) := by
  have whole : ∀ text, ampersand ∉ encode queryAttrValueChars text := fun text =>
    ampersand_notMem_encode (.inl queryAttrValueChars_marks.2.2)
  have decoded : ∀ text, queryUnescape (encode queryAttrValueChars text) =
      .ok (received queryAttrValueChars text) :=
    queryUnescape_encode queryAttrValueChars_marks.1
  have first : parsePairs
      (utf8Bytes "module-path" ++ equals :: encode queryAttrValueChars conf.modulePath) =
        .ok [(utf8Bytes "module-path", received queryAttrValueChars conf.modulePath)] :=
    parsePairs_plain (by decide) (whole conf.modulePath) (decoded conf.modulePath)
  have second : sentPairs (utf8Bytes "pin-value") conf.pin (encode queryAttrValueChars conf.pin) =
      .ok (pairOf (utf8Bytes "pin-value") (received queryAttrValueChars conf.pin)) :=
    sentPairs_eq (by decide) (whole conf.pin) (decoded conf.pin) received_eq_nil.symm
  exact parsePairs_attributeText.mpr ⟨_, _, first, second, rfl⟩

/-! ## The round trip -/

theorem valuesGet_pairOf (name value : Bytes) (others : List (Bytes × Bytes))
    (absent : valuesGet others name = []) :
    valuesGet (pairOf name value ++ others) name = value := by
  unfold pairOf
  split
  · rename_i empty
    rw [empty, List.nil_append, absent]
  · exact valuesGet_cons name value others

theorem valuesGet_pairOf_other {name key : Bytes} (other : name ≠ key) (value : Bytes)
    (others : List (Bytes × Bytes)) :
    valuesGet (pairOf name value ++ others) key = valuesGet others key := by
  apply valuesGet_append
  intro pair listed
  unfold pairOf at listed
  split at listed
  · cases listed
  · rw [List.mem_singleton.mp listed]
    exact other

theorem valuesGet_pin (modulePath pin : Bytes) :
    valuesGet ((utf8Bytes "module-path", modulePath) :: pairOf (utf8Bytes "pin-value") pin)
      (utf8Bytes "pin-value") = pin := by
  have skipped : valuesGet ([(utf8Bytes "module-path", modulePath)] ++
      (pairOf (utf8Bytes "pin-value") pin ++ [])) (utf8Bytes "pin-value") =
      valuesGet (pairOf (utf8Bytes "pin-value") pin ++ []) (utf8Bytes "pin-value") := by
    apply valuesGet_append
    intro pair listed
    rw [List.mem_singleton.mp listed]
    show utf8Bytes "module-path" ≠ utf8Bytes "pin-value"
    decide
  rw [List.append_nil, List.singleton_append] at skipped
  rw [skipped, ← List.append_nil (pairOf _ _), valuesGet_pairOf _ _ [] rfl]

/-- The fields that `Parse` sets are the first values of their attributes. -/
theorem readAttributes_eq_ok {getenv : String → Bytes} {path query : List (Bytes × Bytes)}
    (read : readAttributes getenv path query = .ok conf) :
    conf.tokenLabel = valuesGet path (utf8Bytes "token") ∧
      conf.keyLabel = valuesGet path (utf8Bytes "object") ∧
      conf.pin = valuesGet query (utf8Bytes "pin-value") ∧
      (valuesGet query (utf8Bytes "module-path") ≠ [] →
        conf.modulePath = valuesGet query (utf8Bytes "module-path")) := by
  unfold readAttributes at read
  simp only at read
  split at read
  · cases read
  obtain ⟨slotID, -, read⟩ := bind_eq_value.mp read
  obtain ⟨modulePath, moduleIs, read⟩ := bind_eq_value.mp read
  split at read
  · cases read
  rw [← Except.ok.inj read]
  refine ⟨rfl, rfl, rfl, fun nonempty => ?_⟩
  rw [readModulePath, if_pos nonempty] at moduleIs
  exact (Except.ok.inj moduleIs).symm

/-- No text of the configuration has a byte that the URI conveys as another: a plus sign, or an
ampersand in a label. -/
structure Conveyed (conf : Pkcs11UriConfig) : Prop where
  /-- The token label has neither. -/
  token : plus ∉ conf.tokenLabel ∧ ampersand ∉ conf.tokenLabel
  /-- The key label has neither. -/
  label : plus ∉ conf.keyLabel ∧ ampersand ∉ conf.keyLabel
  /-- The module path has no plus sign. -/
  modulePath : plus ∉ conf.modulePath
  /-- The PIN has no plus sign. -/
  pin : plus ∉ conf.pin

/-- A label that is read back has no byte that the URI conveys as another. -/
theorem label_conveyed {pairs others : List (Bytes × Bytes)} (is : Plain name)
    (read : sentPairs name label (encode pathAttrValueChars label) = .ok pairs)
    (same : label = valuesGet (pairs ++ others) name) : plus ∉ label ∧ ampersand ∉ label := by
  by_cases empty : label = []
  · rw [empty]
    exact ⟨nofun, nofun⟩
  · obtain ⟨more, pairsAre⟩ := sentPairs_label_first is empty read
    rw [pairsAre, List.cons_append, valuesGet_cons] at same
    exact (received_takeWhile_eq_self_iff pathAttrValueChars_marks.2.1).mp same.symm

/-- A configuration that is read back from its URI has no byte that the URI conveys as another. -/
theorem conveyed_of_read {getenv : String → Bytes} {path query : List (Bytes × Bytes)}
    (hasModule : conf.modulePath ≠ []) (readPath : parsePairs (pathText ampersand conf) = .ok path)
    (readQuery : parsePairs (queryText conf) = .ok query)
    (read : readAttributes getenv path query = .ok conf) : Conveyed conf := by
  obtain ⟨tokenIs, labelIs, pinIs, moduleIs⟩ := readAttributes_eq_ok read
  obtain ⟨token, label, readToken, readLabel, rfl⟩ := parsePairs_pathText.mp readPath
  have tokenClean : plus ∉ conf.tokenLabel ∧ ampersand ∉ conf.tokenLabel := by
    rw [List.append_assoc, List.append_assoc] at tokenIs
    exact label_conveyed (by decide) readToken tokenIs
  -- With no ampersand in the token label, nothing before the key label has its name.
  have labelClean : plus ∉ conf.keyLabel ∧ ampersand ∉ conf.keyLabel := by
    rw [sentPairs_label (by decide) tokenClean.2] at readToken
    rw [← Except.ok.inj readToken, List.append_assoc, List.append_assoc,
      valuesGet_pairOf_other (by decide), valuesGet_pairOf_other (by decide),
      valuesGet_pairOf_other (by decide), ← List.append_nil label] at labelIs
    exact label_conveyed (by decide) readLabel labelIs
  rw [parsePairs_queryText] at readQuery
  rw [← Except.ok.inj readQuery, valuesGet_cons] at moduleIs
  rw [← Except.ok.inj readQuery, valuesGet_pin] at pinIs
  have moduleSame := moduleIs (received_eq_nil.not.mpr hasModule)
  have unchanged : ∀ {text}, received queryAttrValueChars text = text ↔ plus ∉ text :=
    received_eq_self_iff queryAttrValueChars_marks.2.1
  exact ⟨tokenClean, labelClean, unchanged.mp moduleSame.symm, unchanged.mp pinIs.symm⟩

/-- The pairs of a path from which every attribute is read back. -/
def pathPairs (conf : Pkcs11UriConfig) : List (Bytes × Bytes) :=
  pairOf (utf8Bytes "token") conf.tokenLabel ++
    (pairOf (utf8Bytes "slot-id") (slotText conf.slotID) ++
      (pairOf (utf8Bytes "id") conf.keyID ++ (pairOf (utf8Bytes "object") conf.keyLabel ++ [])))

theorem valuesGet_pathPairs (conf : Pkcs11UriConfig) :
    valuesGet (pathPairs conf) (utf8Bytes "token") = conf.tokenLabel ∧
      valuesGet (pathPairs conf) (utf8Bytes "slot-id") = slotText conf.slotID ∧
      valuesGet (pathPairs conf) (utf8Bytes "id") = conf.keyID ∧
      valuesGet (pathPairs conf) (utf8Bytes "object") = conf.keyLabel := by
  have absent : ∀ key, valuesGet [] key = [] := fun key => rfl
  unfold pathPairs
  refine ⟨?_, ?_, ?_, ?_⟩
  · apply valuesGet_pairOf
    simp (disch := decide) only [valuesGet_pairOf_other, absent]
  · rw [valuesGet_pairOf_other (by decide)]
    apply valuesGet_pairOf
    simp (disch := decide) only [valuesGet_pairOf_other, absent]
  · simp (disch := decide) only [valuesGet_pairOf_other]
    apply valuesGet_pairOf
    simp (disch := decide) only [valuesGet_pairOf_other, absent]
  · simp (disch := decide) only [valuesGet_pairOf_other]
    exact valuesGet_pairOf _ _ _ (absent _)

theorem readAttributes_pathPairs (getenv : String → Bytes) (hasModule : conf.modulePath ≠ [])
    (hasKey : ¬(conf.keyLabel = [] ∧ conf.keyID = []))
    (hasToken : ¬(conf.tokenLabel = [] ∧ conf.slotID = none)) :
    readAttributes getenv (pathPairs conf)
      ((utf8Bytes "module-path", conf.modulePath) :: pairOf (utf8Bytes "pin-value") conf.pin) =
        .ok conf := by
  obtain ⟨token, slot, id, label⟩ := valuesGet_pathPairs conf
  have chosen : ¬(conf.tokenLabel = [] ∧ slotText conf.slotID = []) := by
    rw [slotText_eq_nil]
    exact hasToken
  simp only [readAttributes, token, slot, id, label, valuesGet_cons, valuesGet_pin, if_neg chosen,
    readSlotID_slotText, readModulePath, if_pos hasModule, if_neg hasKey, bind, Except.bind]

/-- **A configuration is read back from its URI exactly when none of its texts has a plus sign and
no label has an ampersand.** -/
theorem uri_round_trip_iff (getenv : String → Bytes) (other : Bytes → Except GoError Parts)
    (conf : Pkcs11UriConfig) (uri : Bytes) (constructed : conf.construct = .ok uri) :
    Pkcs11UriConfig.parse getenv other uri = .ok conf ↔ Conveyed conf := by
  obtain ⟨hasModule, hasKey, hasToken, -⟩ := construct_eq_ok constructed
  rw [parse_constructed getenv other constructed]
  constructor
  · intro read
    obtain ⟨path, query, readPath, readQuery, read⟩ := read
    exact conveyed_of_read hasModule readPath readQuery read
  · intro clean
    have inPath : ∀ {text}, received pathAttrValueChars text = text ↔ plus ∉ text :=
      received_eq_self_iff pathAttrValueChars_marks.2.1
    have inQuery : ∀ {text}, received queryAttrValueChars text = text ↔ plus ∉ text :=
      received_eq_self_iff queryAttrValueChars_marks.2.1
    have readPath : parsePairs (pathText ampersand conf) = .ok (pathPairs conf) := by
      refine parsePairs_pathText.mpr ⟨_, _, sentPairs_label (by decide) clean.token.2,
        sentPairs_label (by decide) clean.label.2, ?_⟩
      rw [inPath.mpr clean.token.1, inPath.mpr clean.label.1]
      simp [pathPairs]
    refine ⟨pathPairs conf, _, readPath, parsePairs_queryText conf, ?_⟩
    rw [inQuery.mpr clean.modulePath, inQuery.mpr clean.pin]
    exact readAttributes_pathPairs getenv hasModule hasKey hasToken

/-- A key that is found by its label and its id, with every attribute set. -/
def slotConfig : Pkcs11UriConfig where
  modulePath := utf8Bytes "/usr/lib/p11.so"
  slotID := some 7
  tokenLabel := utf8Bytes "my token"
  keyLabel := utf8Bytes "sign;key"
  keyID := [0, 43, 255]
  pin := utf8Bytes "12&34"

/-- The URI of that key. -/
def slotURI : Bytes :=
  utf8Bytes ("pkcs11:token=my%20token;slot-id=7;id=%00%2b%ff;object=sign%3bkey" ++
    "?module-path=/usr/lib/p11.so&pin-value=12%2634")

/-- A URL that is not opaque is refused. -/
def refused (_ : Bytes) : Except GoError Parts := .error ⟨"not an opaque URL"⟩

/-- Other bytes that have to be escaped are read back. -/
theorem uri_round_trip_iff_escaped :
    slotConfig.construct = .ok slotURI ∧
      Pkcs11UriConfig.parse (fun _ => []) refused slotURI = .ok slotConfig := by
  have constructed : slotConfig.construct = .ok slotURI := by decide +kernel
  have clean : Conveyed slotConfig := ⟨by decide, by decide, by decide, by decide⟩
  exact ⟨constructed, (uri_round_trip_iff _ refused slotConfig slotURI constructed).mpr clean⟩

/-- A PIN with a plus sign is read with a space, and a key label with an ampersand up to it. -/
theorem uri_conveys_other_texts :
    ({ slotConfig with pin := utf8Bytes "12+34" }.construct >>=
        Pkcs11UriConfig.parse (fun _ => []) refused) =
      .ok { slotConfig with pin := utf8Bytes "12 34" } ∧
    ({ slotConfig with keyLabel := utf8Bytes "sign&verify" }.construct >>=
        Pkcs11UriConfig.parse (fun _ => []) refused) =
      .ok { slotConfig with keyLabel := utf8Bytes "sign" } := by
  decide +kernel

end Cosign.Verif
