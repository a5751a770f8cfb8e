import Cosign.Go.Results
import Cosign.Webhook.Entry

/-!
# What the webhook reads from an entry that the reconciler has written

The text of an entry is read as YAML, which sorts the members of its objects, and then as JSON. For
every part of a policy a function says what is read from what was written (`loadKey`, `loadUrl`,
`loadAuthority`, `loadPolicy`), without texts and trees.
-/
namespace Cosign.Verif

open Cosign.Go Cosign.Encoding Cosign.Verify Cosign.Webhook

section Load

variable (p : WebhookPlatform)

/-- A key reference that is read. -/
def loadKey (key : KeyRef) : Except GoError KeyRef :=
  if key.data = "" then .ok ⟨"", []⟩
  else (convertKeyDataToPublicKeys p key.data).map (⟨key.data, ·⟩)

/-- A URL that is read. -/
def loadUrl (url : Url) : Except GoError Url := Url.fill p url.json

/-- A transparency log that is read. -/
def loadTLog (tlog : TLog) : Except GoError TLog := (tlog.url.mapM (loadUrl p)).map TLog.mk

/-- A keyless authority that is read. -/
def loadKeyless (keyless : KeylessRef) : Except GoError KeylessRef := do
  let caCert ← keyless.caCert.mapM (loadKey p)
  let url ← keyless.url.mapM (loadUrl p)
  .ok ⟨url, keyless.identities, caCert⟩

/-- An authority that is read. -/
def loadAuthority (authority : Authority) : Except GoError Authority := do
  let ctlog ← authority.ctlog.mapM (loadTLog p)
  let key ← authority.key.mapM (loadKey p)
  let keyless ← authority.keyless.mapM (loadKeyless p)
  let remoteOpts ← sourceOptions p authority.sources
  .ok ⟨key, keyless, authority.sources, ctlog, remoteOpts⟩

/-- A policy that is read. -/
def loadPolicy (policy : ConvertedPolicy) : Except GoError ClusterImagePolicy := do
  let authorities ← policy.authorities.mapM (loadAuthority p)
  .ok ⟨policy.images.getD [], authorities⟩

end Load

/-! ## Sorted trees -/

/-- A struct whose slots are sorted stays as it is, up to its values. -/
theorem sorted_ascending {slots : List (String × Option Json)} (names : List String)
    (named : slots.map Prod.fst = names)
    (ascend : names.Pairwise fun left right => left < right) :
    (Json.struct slots).sorted = .struct (slots.map fun slot => (slot.1, slot.2.map Json.sorted)) :=
  Json.sorted_struct names (List.Perm.refl slots) named ascend

theorem sorted_keyRef (key : KeyRef) : key.json.sorted = key.json := by
  unfold KeyRef.json
  rw [sorted_ascending ["data"] rfl (by decide)]
  simp [Json.sorted_omitString]

theorem sorted_identity (identity : Identity) :
    (identityJson identity).sorted = identityJson identity := by
  unfold identityJson
  rw [sorted_ascending ["issuer", "subject"] rfl (by decide)]
  simp [Json.sorted_omitString]

theorem sorted_image (image : ImagePattern) : image.json.sorted = image.json := by
  unfold ImagePattern.json
  rw [sorted_ascending ["glob", "regex"] rfl (by decide)]
  simp [Json.sorted_omitString]

theorem sorted_source (source : Source) : source.json.sorted = source.json := by
  unfold Source.json
  rw [sorted_ascending ["oci"] rfl (by decide)]
  simp [Json.sorted_omitString]

theorem sorted_url (url : Url) : url.json.sorted = url.json := by
  simp [Url.json, Json.sorted]

theorem sorted_tlog (tlog : TLog) : tlog.json.sorted = tlog.json := by
  unfold TLog.json
  rw [sorted_ascending ["url"] rfl (by decide)]
  simp [Function.comp_def, sorted_url]

theorem sorted_keyless (keyless : KeylessRef) : keyless.json.sorted =
    .struct [("ca-cert", keyless.caCert.map KeyRef.json),
      ("identities", Json.omitSlice identityJson keyless.identities),
      ("url", keyless.url.map Url.json)] := by
  unfold KeylessRef.json
  rw [Json.sorted_struct ["ca-cert", "identities", "url"] (List.reverse_perm _).symm rfl
    (by decide)]
  simp [Function.comp_def, sorted_url, sorted_keyRef, Json.sorted_omitSlice, sorted_identity]

theorem sorted_authority (authority : Authority) : authority.json.sorted =
    .struct [("ctlog", authority.ctlog.map TLog.json), ("key", authority.key.map KeyRef.json),
      ("keyless", authority.keyless.map fun keyless => keyless.json.sorted),
      ("source", Json.omitSlice Source.json authority.sources)] := by
  unfold Authority.json
  have lastFirst {first second third last : String × Option Json} :
      [first, second, third, last].Perm [last, first, second, third] :=
    List.perm_append_singleton last [first, second, third]
  rw [Json.sorted_struct ["ctlog", "key", "keyless", "source"] lastFirst rfl (by decide)]
  simp [Function.comp_def, sorted_tlog, sorted_keyRef, Json.sorted_omitSlice, sorted_source]

theorem sorted_policy (policy : ConvertedPolicy) : policy.json.sorted =
    .struct [("authorities", some (.arr (policy.authorities.map fun authority =>
        authority.json.sorted))),
      ("images", some (sliceJson ImagePattern.json policy.images))] := by
  unfold ConvertedPolicy.json
  rw [Json.sorted_struct ["authorities", "images"] (List.Perm.swap _ _ _) rfl (by decide)]
  cases policy.images <;>
    simp [sliceJson, Json.sorted, Json.sortedElements_eq, Function.comp_def, sorted_image]

/-! ## Reading the parts -/

/-- Filling the elements of a slice that were written one by one. -/
theorem fillElements_written {α β : Type} {element : Json → Except GoError β} {write : α → Json}
    {load : α → Except GoError β} (reads : ∀ value, element (write value) = load value)
    (values : List α) : fillElements element (values.map write) = values.mapM load := by
  rw [fillElements_eq_mapM, List.mapM_map]
  exact congrArg (values.mapM ·) (funext reads)

theorem fillIdentity_json (identity : Identity) :
    fillIdentity (identityJson identity) = .ok identity := by
  unfold fillIdentity identityJson Json.struct fillStruct
  dsimp only
  rw [fillMembers_present rfl, storeSlot_string _ _ _ _ rfl]
  dsimp only [bind, Except.bind]
  rw [fillMembers_present rfl, storeSlot_string _ _ _ _ rfl]
  rfl

theorem ImagePattern.fill_json (image : ImagePattern) :
    ImagePattern.fill image.json = .ok image := by
  unfold ImagePattern.fill ImagePattern.json Json.struct fillStruct
  dsimp only
  rw [fillMembers_present rfl, storeSlot_string _ _ _ _ rfl]
  dsimp only [bind, Except.bind]
  rw [fillMembers_present rfl, storeSlot_string _ _ _ _ rfl]
  rfl

theorem Source.fill_json (source : Source) : Source.fill source.json = .ok source := by
  unfold Source.fill Source.json Json.struct fillStruct
  dsimp only
  rw [fillMembers_present rfl, storeSlot_string _ _ _ _ rfl]
  rfl

section Parts

variable (p : WebhookPlatform)

theorem KeyRef.fill_json (key : KeyRef) : KeyRef.fill p key.json = loadKey p key := by
  unfold loadKey
  by_cases empty : key.data = ""
  · have written : key.json = .obj [] := by simp [KeyRef.json, Json.omitString, Json.struct,
      Json.present, empty]
    rw [if_pos empty, written]
    rfl
  · have written : key.json = .obj [("data", .str key.data)] := by
      simp [KeyRef.json, Json.omitString, Json.struct, Json.present, empty]
    have read : fillStringMap [] (.obj [("data", .str key.data)]) = .ok [("data", key.data)] := rfl
    have found : (stringMapValue [("data", key.data)] "data").getD "" = key.data := rfl
    rw [if_neg empty, written, KeyRef.fill, read]
    dsimp only
    rw [found, if_neg empty]
    cases convertKeyDataToPublicKeys p key.data <;> rfl

theorem TLog.fill_json (tlog : TLog) :
    fillStruct "v1alpha1.TLog" (TLog.fields p) ⟨none⟩ tlog.json = loadTLog p tlog := by
  have written (url : Url) : url.json ≠ .null := Json.noConfusion
  unfold TLog.json Json.struct fillStruct
  dsimp only
  rw [fillMembers_present rfl, storeSlot_pointer _ _ _ written rfl rfl]
  unfold loadTLog loadUrl
  cases tlog.url.mapM fun url => Url.fill p url.json <;> rfl

theorem KeylessRef.fill_json (keyless : KeylessRef) :
    fillStruct "clusterimagepolicy.KeylessRef" (KeylessRef.fields p) ⟨none, [], none⟩
      keyless.json.sorted = loadKeyless p keyless := by
  have urlWritten (url : Url) : url.json ≠ .null := Json.noConfusion
  have keyWritten (key : KeyRef) : key.json ≠ .null := Json.struct_ne_null _
  have read : (fun key : KeyRef => KeyRef.fill p key.json) = loadKey p :=
    funext (KeyRef.fill_json p)
  rw [sorted_keyless]
  unfold Json.struct fillStruct loadKeyless
  dsimp only
  rw [fillMembers_present rfl, storeSlot_pointer _ _ _ keyWritten rfl rfl, read]
  cases keyless.caCert.mapM (loadKey p) with
  | error err => rfl
  | ok caCert =>
    dsimp only [bind, Except.bind, Except.map]
    rw [fillMembers_present rfl, storeSlot_slice _ _ _ _ rfl, fillElements_map fillIdentity_json]
    dsimp only [bind, Except.bind, Except.map]
    rw [fillMembers_present rfl, storeSlot_pointer _ _ _ urlWritten rfl rfl]
    unfold loadUrl
    cases keyless.url.mapM fun url => Url.fill p url.json <;> rfl

/-- What is read from an authority before its sources are looked at. -/
theorem rawAuthority_json (authority : Authority) :
    fillStruct "clusterimagepolicy.RawAuthority" (Authority.fields p) ⟨none, none, [], none, []⟩
        authority.json.sorted = (do
      let ctlog ← authority.ctlog.mapM (loadTLog p)
      let key ← authority.key.mapM (loadKey p)
      let keyless ← authority.keyless.mapM (loadKeyless p)
      .ok ⟨key, keyless, authority.sources, ctlog, []⟩) := by
  have tlogWritten (tlog : TLog) : tlog.json ≠ .null := Json.struct_ne_null _
  have keyWritten (key : KeyRef) : key.json ≠ .null := Json.struct_ne_null _
  have keylessWritten (keyless : KeylessRef) : keyless.json.sorted ≠ .null := by
    rw [sorted_keyless]
    exact Json.struct_ne_null _
  have tlogRead : (fun tlog : TLog => fillStruct "v1alpha1.TLog" (TLog.fields p) ⟨none⟩ tlog.json) =
      loadTLog p := funext (TLog.fill_json p)
  have keyRead : (fun key : KeyRef => KeyRef.fill p key.json) = loadKey p :=
    funext (KeyRef.fill_json p)
  have keylessRead : (fun keyless : KeylessRef => fillStruct "clusterimagepolicy.KeylessRef"
      (KeylessRef.fields p) ⟨none, [], none⟩ keyless.json.sorted) = loadKeyless p :=
    funext (KeylessRef.fill_json p)
  rw [sorted_authority]
  unfold Json.struct fillStruct
  dsimp only
  -- The slots are stored in sorted order, each over the parts that were stored before it.
  rw [fillMembers_present rfl, storeSlot_pointer _ _ _ tlogWritten rfl rfl, tlogRead]
  cases authority.ctlog.mapM (loadTLog p) with
  | error err => rfl
  | ok ctlog =>
    dsimp only [bind, Except.bind, Except.map]
    rw [fillMembers_present rfl, storeSlot_pointer _ _ _ keyWritten rfl rfl, keyRead]
    cases authority.key.mapM (loadKey p) with
    | error err => rfl
    | ok key =>
      dsimp only [bind, Except.bind, Except.map]
      rw [fillMembers_present rfl, storeSlot_pointer _ _ _ keylessWritten rfl rfl, keylessRead]
      cases authority.keyless.mapM (loadKeyless p) with
      | error err => rfl
      | ok keyless =>
        dsimp only [bind, Except.bind, Except.map]
        rw [fillMembers_present rfl, storeSlot_slice _ _ _ _ rfl, fillElements_map Source.fill_json]
        rfl

theorem Authority.fill_json (authority : Authority) :
    Authority.fill p authority.json.sorted = loadAuthority p authority := by
  unfold Authority.fill loadAuthority
  rw [rawAuthority_json]
  cases authority.ctlog.mapM (loadTLog p) with
  | error err => rfl
  | ok ctlog =>
    cases authority.key.mapM (loadKey p) with
    | error err => rfl
    | ok key =>
      cases authority.keyless.mapM (loadKeyless p) with
      | error err => rfl
      | ok keyless =>
        dsimp only [bind, Except.bind]
        cases sourceOptions p authority.sources <;> rfl

/-- **What is read from the tree of a policy.** -/
theorem ClusterImagePolicy.fill_json (policy : ConvertedPolicy) :
    fillStruct "clusterimagepolicy.ClusterImagePolicy" (ClusterImagePolicy.fields p) ⟨[], []⟩
      policy.json.sorted = loadPolicy p policy := by
  rw [sorted_policy]
  unfold Json.struct fillStruct loadPolicy
  dsimp only
  rw [fillMembers_present rfl]
  dsimp only [storeSlot, storeSlice]
  rw [fillElements_written (Authority.fill_json p)]
  cases policy.authorities.mapM (loadAuthority p) with
  | error err => rfl
  | ok authorities =>
    dsimp only [bind, Except.bind]
    rw [fillMembers_present rfl]
    cases policy.images with
    | none => rfl
    | some images =>
      dsimp only [storeSlot, sliceJson, storeSlice]
      rw [fillElements_map ImagePattern.fill_json]
      rfl

/-- The YAML library reads the entry of a policy as the JSON text that it is: its answer is a text
of the same tree, with sorted members. -/
def ReadsAsJson (spec : ConvertedPolicy) : Prop :=
  ∃ j, p.yamlToJSON (utf8Bytes (marshal spec)) = .ok j ∧ Json.parse j = some spec.json.sorted

/-- **What the webhook reads from an entry**, if the YAML library reads it as JSON. -/
theorem parseEntry_marshal {spec : ConvertedPolicy} (read : ReadsAsJson p spec) :
    parseEntry p (marshal spec) = loadPolicy p spec := by
  obtain ⟨j, converted, parsed⟩ := read
  unfold parseEntry
  rw [converted]
  dsimp only [unmarshal]
  rw [parsed]
  exact ClusterImagePolicy.fill_json p spec

theorem parseEntry_refused {text : String} {err : GoError}
    (refused : p.yamlToJSON (utf8Bytes text) = .error err) :
    ∀ policy, parseEntry p text ≠ .ok policy := by
  intro policy read
  unfold parseEntry at read
  rw [refused] at read
  cases read

end Parts

/-! ## Entries are JSON texts -/

section Writable

theorem writable_strings {limit : Nat} (slots : List (String × String)) :
    Json.Writable (limit + 1)
      (.struct (slots.map fun slot => (slot.1, Json.omitString slot.2))) := by
  refine Json.writable_struct fun slot listed => ?_
  obtain ⟨original, -, same⟩ := List.mem_map.mp listed
  rw [← same]
  exact Json.writable_omitString original.2

theorem writable_url {limit : Nat} (url : Url) : Json.Writable limit url.json := by
  rw [Url.json, Json.Writable]
  trivial

theorem writable_keyless {limit : Nat} (keyless : KeylessRef) :
    Json.Writable (limit + 3) keyless.json := by
  refine Json.writable_struct (List.forall_mem_cons.mpr ⟨?_, List.forall_mem_cons.mpr ⟨?_,
    List.forall_mem_singleton.mpr ?_⟩⟩)
  · exact Json.writable_pointer writable_url keyless.url
  · exact Json.writable_omitSlice
      (fun identity => writable_strings
        [("issuer", identity.issuer), ("subject", identity.subject)]) keyless.identities
  · exact Json.writable_pointer (fun key => writable_strings [("data", key.data)]) keyless.caCert

theorem writable_tlog {limit : Nat} (tlog : TLog) : Json.Writable (limit + 1) tlog.json :=
  Json.writable_struct (List.forall_mem_singleton.mpr
    (Json.writable_pointer writable_url tlog.url))

theorem writable_authority {limit : Nat} (authority : Authority) :
    Json.Writable (limit + 4) authority.json := by
  refine Json.writable_struct (List.forall_mem_cons.mpr ⟨?_, List.forall_mem_cons.mpr ⟨?_,
    List.forall_mem_cons.mpr ⟨?_, List.forall_mem_singleton.mpr ?_⟩⟩⟩)
  · exact Json.writable_pointer (fun key => writable_strings [("data", key.data)]) authority.key
  · exact Json.writable_pointer writable_keyless authority.keyless
  · exact Json.writable_omitSlice (fun source => writable_strings [("oci", source.oci)])
      authority.sources
  · exact Json.writable_pointer writable_tlog authority.ctlog

/-- A slice without the option `omitempty` can be written if its elements can. -/
theorem writable_sliceJson {α : Type} {limit : Nat} {write : α → Json}
    (writable : ∀ value, Json.Writable limit (write value)) (values : Option (List α)) :
    Json.Writable (limit + 1) (sliceJson write values) := by
  cases values with
  | none => trivial
  | some values =>
    rw [sliceJson, Json.Writable]
    exact ⟨Nat.succ_pos limit, Json.writableElements_map writable values⟩

theorem writable_policy (limit : Nat) (spec : ConvertedPolicy) :
    Json.Writable (limit + 6) spec.json := by
  have images : Json.Writable (limit + 5) (sliceJson ImagePattern.json spec.images) :=
    writable_sliceJson
      (fun image => writable_strings [("glob", image.glob), ("regex", image.regex)]) spec.images
  have authorities : Json.Writable (limit + 5) (sliceJson Authority.json (some spec.authorities)) :=
    writable_sliceJson writable_authority (some spec.authorities)
  refine Json.writable_struct (List.forall_mem_cons.mpr ⟨?_, List.forall_mem_singleton.mpr ?_⟩)
  · intro tree given
    cases given
    exact images
  · intro tree given
    cases given
    exact authorities

end Writable

theorem toList_marshal (spec : ConvertedPolicy) :
    (marshal spec).toList = Json.render spec.json := by
  rw [marshal, goString, Json.marshal, utf8Runes_flatMap, String.toList_ofList]

theorem marshal_ne_empty (spec : ConvertedPolicy) : marshal spec ≠ "" := by
  intro empty
  have text := toList_marshal spec
  rw [empty] at text
  cases text

/-- A YAML library that reads JSON texts as JSON reads every entry as JSON. -/
theorem readsAsJson_of_json {p : WebhookPlatform}
    (json : ∀ tree, Json.Writable Json.maxNestingDepth tree →
      p.yamlToJSON (Json.marshal tree) = .ok (Json.marshal tree.sorted)) (spec : ConvertedPolicy) :
    ReadsAsJson p spec := by
  have bytes : utf8Bytes (marshal spec) = Json.marshal spec.json := by
    rw [utf8Bytes_eq, toList_marshal, Json.marshal]
  refine ⟨Json.marshal spec.json.sorted, ?_, ?_⟩
  · rw [bytes]
    exact json spec.json (writable_policy 9994 spec)
  · exact Json.parse_marshal (Json.writable_sorted _ (writable_policy 9994 spec))

/-! ## What can be read -/

section Readable

variable {p : WebhookPlatform}

/-- Key data that is read without an error, be it without keys. -/
def TextLoads (p : WebhookPlatform) (text : String) : Prop :=
  text = "" ∨ ∃ keys, convertKeyDataToPublicKeys p text = .ok keys

theorem exists_loadKey_iff {key : KeyRef} :
    (∃ read, loadKey p key = .ok read) ↔ TextLoads p key.data := by
  unfold loadKey TextLoads
  by_cases empty : key.data = ""
  · simp [empty]
  · rw [if_neg empty, or_iff_right empty]
    cases convertKeyDataToPublicKeys p key.data <;> simp [Except.map]

theorem loadKey_eq_ok {key read : KeyRef} (filled : key.data ≠ "") :
    loadKey p key = .ok read ↔
      ∃ keys, convertKeyDataToPublicKeys p key.data = .ok keys ∧ ⟨key.data, keys⟩ = read := by
  unfold loadKey
  rw [if_neg filled]
  cases convertKeyDataToPublicKeys p key.data <;> simp [Except.map]

theorem exists_sourceOptions_iff {sources : List Source} :
    (∃ remoteOpts, sourceOptions p sources = .ok remoteOpts) ↔
      ∀ source ∈ sources, ∃ repository, p.newRepository source.oci = .ok repository := by
  induction sources with
  | nil => simp [sourceOptions]
  | cons source rest ih =>
    rw [List.forall_mem_cons, ← ih, sourceOptions]
    cases p.newRepository source.oci with
    | error err => simp
    | ok repository =>
      cases sourceOptions p rest with
      | error err => simp
      | ok more =>
        dsimp only
        split <;> simp

/-- A keyless authority is read when its certificate and its address are. -/
theorem exists_loadKeyless_iff {keyless : KeylessRef} :
    (∃ read, loadKeyless p keyless = .ok read) ↔
      (∃ caCert, keyless.caCert.mapM (loadKey p) = .ok caCert) ∧
        ∃ url, keyless.url.mapM (loadUrl p) = .ok url := by
  unfold loadKeyless
  cases keyless.caCert.mapM (loadKey p) with
  | error err => simp [bind, Except.bind]
  | ok caCert => cases keyless.url.mapM (loadUrl p) <;> simp [bind, Except.bind]

theorem loadKeyless_eq_ok {keyless read : KeylessRef} (ran : loadKeyless p keyless = .ok read) :
    read.identities = keyless.identities ∧ read.url.isSome = keyless.url.isSome := by
  obtain ⟨caCert, -, ran⟩ := bind_eq_value.mp ran
  obtain ⟨url, found, same⟩ := bind_eq_value.mp ran
  rw [← Except.ok.inj same]
  exact ⟨rfl, optionMapM_isSome found⟩

theorem exists_loadTLog_iff {tlog : TLog} :
    (∃ read, loadTLog p tlog = .ok read) ↔ ∃ url, tlog.url.mapM (loadUrl p) = .ok url := by
  unfold loadTLog
  cases tlog.url.mapM (loadUrl p) <;> simp [Except.map]

theorem loadAuthority_eq_ok {authority read : Authority} :
    loadAuthority p authority = .ok read ↔
      authority.ctlog.mapM (loadTLog p) = .ok read.ctlog ∧
      authority.key.mapM (loadKey p) = .ok read.key ∧
      authority.keyless.mapM (loadKeyless p) = .ok read.keyless ∧
      sourceOptions p authority.sources = .ok read.remoteOpts ∧
      read.sources = authority.sources := by
  unfold loadAuthority
  simp only [bind_eq_value]
  constructor
  · rintro ⟨ctlog, logged, key, keyed, keyless, certified, remoteOpts, sourced, same⟩
    rw [← Except.ok.inj same]
    exact ⟨logged, keyed, certified, sourced, rfl⟩
  · rintro ⟨logged, keyed, certified, sourced, same⟩
    refine ⟨_, logged, _, keyed, _, certified, _, sourced, ?_⟩
    rw [← same]

theorem exists_loadAuthority_iff {authority : Authority} :
    (∃ read, loadAuthority p authority = .ok read) ↔
      (∃ ctlog, authority.ctlog.mapM (loadTLog p) = .ok ctlog) ∧
      (∃ key, authority.key.mapM (loadKey p) = .ok key) ∧
      (∃ keyless, authority.keyless.mapM (loadKeyless p) = .ok keyless) ∧
      ∃ remoteOpts, sourceOptions p authority.sources = .ok remoteOpts := by
  simp only [loadAuthority_eq_ok]
  constructor
  · rintro ⟨read, logged, keyed, certified, sourced, -⟩
    exact ⟨⟨_, logged⟩, ⟨_, keyed⟩, ⟨_, certified⟩, ⟨_, sourced⟩⟩
  · rintro ⟨⟨ctlog, logged⟩, ⟨key, keyed⟩, ⟨keyless, certified⟩, ⟨remoteOpts, sourced⟩⟩
    exact ⟨⟨key, keyless, authority.sources, ctlog, remoteOpts⟩, logged, keyed, certified, sourced,
      rfl⟩

end Readable

/-! ## Reading the map -/

section Maps

variable (p : WebhookPlatform)

/-- The entry can be read. -/
def EntryParses (text : String) : Prop := text ≠ "" ∧ ∃ policy, parseEntry p text = .ok policy

/-- What one entry adds: nothing if it is the example, and otherwise the policy read from it. -/
theorem addEntry_eq_ok {policies next : GoMap ClusterImagePolicy} {k v : String} :
    addEntry p policies k v = .ok next ↔
      k = "_example" ∧ next = policies ∨
      k ≠ "_example" ∧ v ≠ "" ∧
        ∃ policy, parseEntry p v = .ok policy ∧ next = policies.insert k policy := by
  unfold addEntry
  by_cases isExample : k = "_example"
  · simp [isExample, eq_comm]
  · by_cases empty : v = ""
    · simp [isExample, empty]
    · rw [if_neg isExample, if_neg empty]
      cases parseEntry p v <;> simp [isExample, empty, eq_comm]

variable {p}

/-- The loop over entries ends exactly when every entry but the example can be read. -/
theorem exists_foldlM_addEntry {entries : List (Sigma fun _ : String => String)}
    {policies : GoMap ClusterImagePolicy} :
    (∃ final, entries.foldlM (fun policies entry => addEntry p policies entry.1 entry.2) policies =
        .ok final) ↔
      ∀ entry ∈ entries, entry.1 ≠ "_example" → EntryParses p entry.2 := by
  induction entries generalizing policies with
  | nil => simp [pure, Except.pure]
  | cons entry rest ih =>
    simp only [List.foldlM_cons, bind_eq_value, List.forall_mem_cons]
    constructor
    · intro run
      obtain ⟨final, next, added, run⟩ := run
      refine ⟨fun named => ?_, ih.mp ⟨final, run⟩⟩
      rcases (addEntry_eq_ok p).mp added with ⟨isExample, -⟩ | ⟨-, filled, policy, parsed, -⟩
      · exact absurd isExample named
      · exact ⟨filled, policy, parsed⟩
    · intro parses
      have added : ∃ next, addEntry p policies entry.1 entry.2 = .ok next := by
        by_cases named : entry.1 = "_example"
        · exact ⟨policies, (addEntry_eq_ok p).mpr (.inl ⟨named, rfl⟩)⟩
        · obtain ⟨filled, policy, parsed⟩ := parses.1 named
          exact ⟨_, (addEntry_eq_ok p).mpr (.inr ⟨named, filled, policy, parsed, rfl⟩)⟩
      obtain ⟨next, added⟩ := added
      obtain ⟨final, run⟩ := ih.mpr parses.2
      exact ⟨final, next, added, run⟩

/-- The loop leaves the policies alone whose names it does not come across. -/
theorem foldlM_addEntry_frame {entries : List (Sigma fun _ : String => String)}
    {policies final : GoMap ClusterImagePolicy} {key : String}
    (run : entries.foldlM (fun policies entry => addEntry p policies entry.1 entry.2) policies =
      .ok final) (absent : key ∉ entries.keys) : final.lookup key = policies.lookup key := by
  induction entries generalizing policies with
  | nil =>
    cases run
    rfl
  | cons entry rest ih =>
    rw [List.foldlM_cons] at run
    obtain ⟨next, added, after⟩ := bind_eq_value.mp run
    rw [List.keys_cons, List.mem_cons, not_or] at absent
    rw [ih after absent.2]
    rcases (addEntry_eq_ok p).mp added with ⟨-, same⟩ | ⟨-, -, policy, -, same⟩
    · rw [same]
    · rw [same, AList.lookup_insert_ne absent.1]

theorem foldlM_addEntry_lookup {entries : List (Sigma fun _ : String => String)}
    {policies final : GoMap ClusterImagePolicy} {key text : String} {policy : ClusterImagePolicy}
    (run : entries.foldlM (fun policies entry => addEntry p policies entry.1 entry.2) policies =
      .ok final)
    (distinct : entries.NodupKeys) (listed : ⟨key, text⟩ ∈ entries) (named : key ≠ "_example")
    (parsed : parseEntry p text = .ok policy) : final.lookup key = some policy := by
  induction entries generalizing policies with
  | nil => cases listed
  | cons entry rest ih =>
    rw [List.foldlM_cons] at run
    obtain ⟨next, added, after⟩ := bind_eq_value.mp run
    obtain ⟨fresh, distinct⟩ := List.nodupKeys_cons.mp distinct
    rcases List.mem_cons.mp listed with here | later
    · subst here
      rcases (addEntry_eq_ok p).mp added with ⟨isExample, -⟩ | ⟨-, -, found, parsed', same⟩
      · exact absurd isExample named
      · cases parsed.symm.trans parsed'
        rw [foldlM_addEntry_frame after fresh, same, AList.lookup_insert]
    · exact ih after distinct later

/-- **The map is read exactly when each of its entries is**, apart from the example. -/
theorem exists_config_iff {data : GoMap String} :
    (∃ config, newImagePoliciesConfigFromMap p data = .ok config) ↔
      ∀ key text, data.lookup key = some text → key ≠ "_example" → EntryParses p text := by
  have loop : (∃ config, newImagePoliciesConfigFromMap p data = .ok config) ↔
      ∃ final, data.entries.foldlM (fun policies entry => addEntry p policies entry.1 entry.2) ∅ =
        .ok final := by
    unfold newImagePoliciesConfigFromMap
    cases data.entries.foldlM (fun policies entry => addEntry p policies entry.1 entry.2) ∅ <;>
      simp [Except.map]
  rw [loop, exists_foldlM_addEntry]
  constructor
  · intro parses key text listed
    exact parses ⟨key, text⟩ (AList.mem_lookup_iff.mp listed)
  · intro parses entry listed
    exact parses entry.1 entry.2 (AList.mem_lookup_iff.mpr listed)

/-- The configuration has the policy that is read from an entry under the name of the entry. -/
theorem config_lookup {data : GoMap String} {config : ImagePolicyConfig} {key text : String}
    {policy : ClusterImagePolicy} (read : newImagePoliciesConfigFromMap p data = .ok config)
    (listed : data.lookup key = some text) (named : key ≠ "_example")
    (parsed : parseEntry p text = .ok policy) : config.policies.lookup key = some policy := by
  unfold newImagePoliciesConfigFromMap at read
  cases run : data.entries.foldlM (fun policies entry => addEntry p policies entry.1 entry.2) ∅ with
  | error err =>
    rw [run] at read
    cases read
  | ok final =>
    rw [run] at read
    rw [← Except.ok.inj read]
    exact foldlM_addEntry_lookup run data.nodupKeys (AList.mem_lookup_iff.mp listed) named parsed

end Maps

end Cosign.Verif
