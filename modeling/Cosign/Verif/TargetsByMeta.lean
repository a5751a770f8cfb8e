import Mathlib.Data.List.Perm.Basic
import Cosign.Encoding.Fields
import Cosign.Tuf.Targets
import Cosign.Verif.TufTargets

/-!
# Trusted targets by their usage

The loop of `GetTargetsByMeta` is one `mapM` over the targets of the usage, so it fails if one of
them cannot be verified and otherwise returns all of them, in the order of the map
(`foldlM_matchTarget`). The fallbacks are read only if there is no such target (`targets_by_meta`).
-/
namespace Cosign.Verif

open Cosign.Go Cosign.Encoding Cosign.Tuf Cosign.Verify

variable {value : Json} {text : String} {status : StatusKind} {files : List TargetFile}

/-! ## What a custom text says -/

/-- The name of a usage. -/
def usageName : UsageKind → String
  | .unknown => "unknown"
  | .fulcio => "fulcio"
  | .rekor => "rekor"
  | .ctfe => "ctfe"

/-- The name of a status. -/
def statusName : StatusKind → String
  | .unknown => "unknown"
  | .active => "active"
  | .expired => "expired"

/-- The values of the members with a name, in any letter case. -/
def valuesOf (name : String) (members : List (String × Json)) : List Json :=
  (members.filter fun member => equalFold name member.1).map Prod.snd

/-- The members of an object; null is one without any. -/
def objectMembers : Json → Option (List (String × Json))
  | .null => some []
  | .obj members => some members
  | _ => none

/-- What some values say of a kind: each is null or the name of a kind in any letter case, and the
last name counts. -/
inductive Tells {α : Type} (nameOf : α → String) : α → List Json → α → Prop where
  /-- Nothing more is said. -/
  | nil (kind : α) : Tells nameOf kind [] kind
  /-- Null says nothing. -/
  | null {start kind : α} {rest : List Json} (later : Tells nameOf start rest kind) :
      Tells nameOf start (.null :: rest) kind
  /-- A name replaces what was said before. -/
  | named {start next kind : α} {text : String} {rest : List Json}
      (is : (runes text).map lowerRune = runes (nameOf next))
      (later : Tells nameOf next rest kind) : Tells nameOf start (.str text :: rest) kind

/-- The custom text is an object whose members `sigstore` are objects, with members `usage` and
`status` that say the usage and the status. -/
def Describes (text : Bytes) (usage : UsageKind) (status : StatusKind) : Prop :=
  ∃ tree members objects, Json.parse text = some tree ∧ objectMembers tree = some members ∧
    (valuesOf "sigstore" members).mapM objectMembers = some objects ∧
    Tells usageName .unknown (valuesOf "usage" objects.flatten) usage ∧
    Tells statusName .unknown (valuesOf "status" objects.flatten) status

/-- A value of a field with an `UnmarshalText` is stored if it is null or a text that is read. -/
theorem storeText_eq_ok {σ α : Type} {unmarshalText : String → Except GoError α}
    {set : σ → α → σ} {filled next : σ} :
    storeText unmarshalText set filled value = .ok next ↔
      value = .null ∧ next = filled ∨
        ∃ text kind, value = .str text ∧ unmarshalText text = .ok kind ∧
          next = set filled kind := by
  cases value with
  | str text => cases read : unmarshalText text <;> simp [storeText, read, Except.map, eq_comm]
  | null => simp [storeText, eq_comm]
  | bool value => simp [storeText]
  | num literal => simp [storeText]
  | arr elements => simp [storeText]
  | obj members => simp [storeText]

theorem tells_cons {α : Type} {nameOf : α → String} {start kind : α}
    {rest : List Json} : Tells nameOf start (value :: rest) kind ↔
      value = .null ∧ Tells nameOf start rest kind ∨
        ∃ text next, value = .str text ∧ (runes text).map lowerRune = runes (nameOf next) ∧
          Tells nameOf next rest kind := by
  constructor
  · intro told
    cases told with
    | null later => exact .inl ⟨rfl, later⟩
    | named is later => exact .inr ⟨_, _, rfl, is, later⟩
  · intro either
    cases either with
    | inl silent => exact silent.1 ▸ .null silent.2
    | inr named =>
      have ⟨text, next, same, is, later⟩ := named
      exact same ▸ .named is later

/-- One more value of a field is stored exactly as it tells, and the other fields stay. -/
theorem storeText_tells {σ α : Type} {unmarshalText : String → Except GoError α}
    {nameOf : α → String} (get : σ → α) (set : σ → α → σ) (others : σ → Prop)
    (reads : ∀ text kind, unmarshalText text = .ok kind ↔
      (runes text).map lowerRune = runes (nameOf kind))
    (stored : ∀ filled kind, get (set filled kind) = kind)
    (apart : ∀ filled kind, others (set filled kind) ↔ others filled)
    {filled : σ} {values : List Json} {kind : α} :
    (∃ next, storeText unmarshalText set filled value = .ok next ∧
      Tells nameOf (get next) values kind ∧ others next) ↔
    Tells nameOf (get filled) (value :: values) kind ∧ others filled := by
  simp only [storeText_eq_ok, tells_cons, reads]
  constructor
  · intro ⟨next, either, later, rest⟩
    cases either with
    | inl silent =>
      rw [silent.2] at later rest
      exact ⟨.inl ⟨silent.1, later⟩, rest⟩
    | inr named =>
      have ⟨text, other, same, is, set⟩ := named
      rw [set, stored] at later
      rw [set, apart] at rest
      exact ⟨.inr ⟨text, other, same, is, later⟩, rest⟩
  · intro ⟨either, rest⟩
    cases either with
    | inl silent => exact ⟨filled, .inl ⟨silent.1, rfl⟩, silent.2, rest⟩
    | inr named =>
      have ⟨text, other, same, is, later⟩ := named
      exact ⟨set filled other, .inr ⟨text, other, same, is, rfl⟩,
        (stored filled other).symm ▸ later, (apart filled other).mpr rest⟩

theorem unmarshalKind_eq_ok {α : Type} {type : String} {nameOf : α → String} {kinds : List α}
    (listed : ∀ kind, kind ∈ kinds)
    (distinct : ∀ kind other, runes (nameOf kind) = runes (nameOf other) → kind = other)
    {kind : α} :
    unmarshalKind type (kinds.map fun kind => (nameOf kind, kind)) text = .ok kind ↔
      (runes text).map lowerRune = runes (nameOf kind) := by
  unfold unmarshalKind
  constructor
  · intro read
    split at read
    · rename_i found is
      cases read
      have ⟨other, _, same⟩ := List.mem_map.mp (List.mem_of_find?_eq_some is)
      have named := List.find?_some is
      rw [← same] at named ⊢
      exact of_decide_eq_true named
    · cases read
  · intro named
    split
    · rename_i found is
      have ⟨other, _, same⟩ := List.mem_map.mp (List.mem_of_find?_eq_some is)
      have again := List.find?_some is
      rw [← same] at again ⊢
      rw [distinct kind other (named.symm.trans (of_decide_eq_true again))]
    · rename_i unknown
      have inside : (nameOf kind, kind) ∈ kinds.map fun kind => (nameOf kind, kind) :=
        List.mem_map_of_mem (listed kind)
      exact absurd (decide_eq_true named) (List.find?_eq_none.mp unknown _ inside)

theorem usage_unmarshalText {kind : UsageKind} :
    UsageKind.unmarshalText text = .ok kind ↔
      (runes text).map lowerRune = runes (usageName kind) :=
  @unmarshalKind_eq_ok _ _ _ usageName [.unknown, .fulcio, .rekor, .ctfe]
    (fun kind => by cases kind <;> decide)
    (fun kind other => by cases kind <;> cases other <;> decide) _

theorem status_unmarshalText {kind : StatusKind} :
    statusUnmarshalText text = .ok kind ↔
      (runes text).map lowerRune = runes (statusName kind) :=
  @unmarshalKind_eq_ok _ _ _ statusName [.unknown, .active, .expired]
    (fun kind => by cases kind <;> decide)
    (fun kind other => by cases kind <;> cases other <;> decide) _

theorem valuesOf_cons {name key : String} {rest : List (String × Json)} :
    valuesOf name ((key, value) :: rest) =
      if equalFold name key then value :: valuesOf name rest else valuesOf name rest := by
  unfold valuesOf
  rw [List.filter_cons]
  split <;> rfl

theorem fillStruct_eq_ok {σ : Type} {target : String} {fields : List (StructField σ)}
    {initial final : σ} {tree : Json} : fillStruct target fields initial tree = .ok final ↔
      ∃ members, objectMembers tree = some members ∧
        fillMembers fields initial members = .ok final := by
  cases tree with
  | null => simp [fillStruct, objectMembers, fillMembers]
  | obj members => simp [fillStruct, objectMembers]
  | bool value => simp [fillStruct, objectMembers]
  | num literal => simp [fillStruct, objectMembers]
  | str text => simp [fillStruct, objectMembers]
  | arr elements => simp [fillStruct, objectMembers]

theorem custom_distinct : FoldDistinct CustomMetadata.fields := by
  unfold FoldDistinct
  decide +kernel

/-- The members of a `customMetadata` are read as what they say. -/
theorem fillMembers_custom {members : List (String × Json)} {filled final : CustomMetadata} :
    fillMembers CustomMetadata.fields filled members = .ok final ↔
      Tells usageName filled.usage (valuesOf "usage" members) final.usage ∧
        Tells statusName filled.status (valuesOf "status" members) final.status := by
  induction members generalizing filled with
  | nil =>
    constructor
    · intro same
      cases same
      exact ⟨.nil _, .nil _⟩
    · intro ⟨usage, status⟩
      cases filled
      cases final
      cases usage
      cases status
      rfl
  | cons member rest ih =>
    have ⟨key, value⟩ := member
    simp only [valuesOf_cons]
    have selects (field : StructField CustomMetadata) : selectField CustomMetadata.fields key =
        some field ↔ field ∈ CustomMetadata.fields ∧ equalFold field.name key = true :=
      selectField_eq_some custom_distinct
    by_cases isUsage : equalFold "usage" key = true
    · have notStatus : ¬equalFold "status" key = true := fun isStatus => nomatch
        (equalFold_iff.mp isUsage).trans (equalFold_iff.mp isStatus).symm
      rw [fillMembers_cons_ok ((selects _).mpr ⟨List.mem_cons_self, isUsage⟩), if_pos isUsage,
        if_neg notStatus]
      simp only [ih]
      exact storeText_tells CustomMetadata.usage (fun filled usage => { filled with usage })
        (fun next => Tells statusName next.status _ _) (fun _ _ => usage_unmarshalText)
        (fun _ _ => rfl) fun _ _ => .rfl
    · by_cases isStatus : equalFold "status" key = true
      · rw [fillMembers_cons_ok ((selects _).mpr ⟨List.mem_cons_of_mem _ List.mem_cons_self,
          isStatus⟩), if_neg isUsage, if_pos isStatus]
        simp only [ih, @and_comm (Tells usageName _ _ _)]
        exact storeText_tells CustomMetadata.status (fun filled status => { filled with status })
          (fun next => Tells usageName next.usage _ _) (fun _ _ => status_unmarshalText)
          (fun _ _ => rfl) fun _ _ => .rfl
      · have skipped : selectField CustomMetadata.fields key = none := by
          apply selectField_eq_none
          simp [CustomMetadata.fields, isUsage, isStatus]
        rw [fillMembers, skipped, if_neg isUsage, if_neg isStatus]
        exact ih

/-- The members of a `sigstoreCustomMetadata` are read as the members of its objects. -/
theorem fillMembers_sigstore {members : List (String × Json)} {filled final : CustomMetadata} :
    fillMembers sigstoreFields filled members = .ok final ↔
      ∃ objects, (valuesOf "sigstore" members).mapM objectMembers = some objects ∧
        fillMembers CustomMetadata.fields filled objects.flatten = .ok final := by
  induction members generalizing filled with
  | nil => simp [valuesOf, fillMembers]
  | cons member rest ih =>
    obtain ⟨key, value⟩ := member
    rw [valuesOf_cons]
    by_cases isSigstore : equalFold "sigstore" key = true
    · have selected : selectField sigstoreFields key = some ⟨"sigstore",
          fillStruct "tuf.customMetadata" CustomMetadata.fields⟩ :=
        (selectField_eq_some (List.pairwise_singleton _ _)).mpr ⟨List.mem_cons_self, isSigstore⟩
      rw [fillMembers_cons_ok selected, if_pos isSigstore]
      simp only [fillStruct_eq_ok, ih]
      constructor
      · rintro ⟨next, ⟨first, is, fills⟩, others, rest, last⟩
        exact ⟨first :: others, by simp [is, rest], fillMembers_append.mpr ⟨next, fills, last⟩⟩
      · rintro ⟨objects, all, fills⟩
        rw [List.mapM_cons] at all
        obtain ⟨first, is, more⟩ := Option.bind_eq_some_iff.mp all
        obtain ⟨others, rest, same⟩ := Option.bind_eq_some_iff.mp more
        cases same
        obtain ⟨next, fills, last⟩ := fillMembers_append.mp fills
        exact ⟨next, ⟨first, is, fills⟩, others, rest, last⟩
    · have skipped : selectField sigstoreFields key = none := by
        apply selectField_eq_none
        simp [sigstoreFields, isSigstore]
      rw [fillMembers, skipped, if_neg isSigstore]
      exact ih

/-- **A custom text is read exactly as what it tells.** -/
theorem unmarshalCustom_eq_ok {text : Bytes} {usage : UsageKind} :
    unmarshalCustom text = .ok ⟨usage, status⟩ ↔ Describes text usage status := by
  unfold unmarshalCustom unmarshal Describes
  cases Json.parse text with
  | none => simp
  | some tree =>
    simp only [fillStruct_eq_ok, fillMembers_sigstore, fillMembers_custom, Option.some.injEq,
      exists_and_left, exists_eq_left']

/-- The usage and the status are read in any letter case, whatever else the text has. -/
example : Describes (utf8Bytes
    "\x7b\"sigstore\":\x7b\"usage\":\"Rekor\",\"URI\":1,\"status\":\"Expired\"\x7d\x7d")
    .rekor .expired :=
  unmarshalCustom_eq_ok.mp (by decide +kernel)

section

variable (p : TufPlatform) (t : TUF) (custom : String → Option Bytes) (usage : UsageKind)

/-- The status of a target whose custom metadata are well formed and of the usage. -/
def usageStatus (name : String) : Option StatusKind :=
  match custom name with
  | none => none
  | some text =>
    match unmarshalCustom text with
    | .error _ => none
    | .ok scm => if scm.usage = usage then some scm.status else none

/-- The metadata list the target, with well-formed custom metadata of the usage and the status. -/
def OfUsage (name : String) (status : StatusKind) : Prop :=
  name ∈ t.store.localMeta.targets ∧ ∃ text, custom name = some text ∧ Describes text usage status

/-- Bytes of a target that the store has and that are verified against the metadata. -/
def VerifiedTarget (name : String) (bytes : Bytes) : Prop :=
  ∃ validMeta, t.store.localMeta.targets.lookup name = some validMeta ∧
    t.targets.get p t.store name = .ok bytes ∧ Matches p.sha512 validMeta bytes

/-- The files are exactly the targets of the usage, each once, with verified bytes and its own
status. -/
def ExactlyOfUsage (files : List TargetFile) : Prop :=
  ∃ chosen : List (String × StatusKind), (chosen.map Prod.fst).Nodup ∧
    (∀ name status, (name, status) ∈ chosen ↔ OfUsage t custom usage name status) ∧
    List.Forall₂ (fun target file => VerifiedTarget p t target.1 file.target ∧
      file.status = target.2) chosen files

/-- The fallbacks that can be verified, in order, all active. -/
def fallbackFiles (fallbacks : List String) : List TargetFile :=
  fallbacks.filterMap fun name => (t.getTarget p name).toOption.map fun target =>
    ⟨target, .active⟩

/-- The targets of the usage among some entries, with their status. -/
def ofUsage (entries : List TargetEntry) : List (String × StatusKind) :=
  entries.filterMap fun entry => (usageStatus custom usage entry.1).map fun status =>
    (entry.1, status)

/-- Get a target of the usage. -/
def fetch (target : String × StatusKind) : Except GoError TargetFile :=
  match t.getTarget p target.1 with
  | .error err => .error (err.wrap "error getting target by usage")
  | .ok bytes => .ok ⟨bytes, target.2⟩

end

variable {p : TufPlatform} {t : TUF} {custom : String → Option Bytes} {usage : UsageKind}

/-! ## The loops -/

theorem fetch_eq_ok {target : String × StatusKind} {file : TargetFile} :
    fetch p t target = .ok file ↔
      VerifiedTarget p t target.1 file.target ∧ file.status = target.2 := by
  have verified : VerifiedTarget p t target.1 file.target ↔
      t.getTarget p target.1 = .ok file.target := getTarget_eq_ok.symm
  rw [verified]
  unfold fetch
  cases t.getTarget p target.1 with
  | error err => simp
  | ok bytes =>
    cases file
    simp [eq_comm]

/-- A round gets a target of the usage, or ends the loop; any other target is skipped. -/
theorem matchTarget_eq (entry : TargetEntry) (matched : List TargetFile) :
    matchTarget p t custom usage matched entry =
      (usageStatus custom usage entry.1).elim (.ok matched) fun status =>
        (fetch p t (entry.1, status)).map (matched ++ [·]) := by
  unfold matchTarget usageStatus fetch
  cases custom entry.1 with
  | none => rfl
  | some text =>
    dsimp only
    cases unmarshalCustom text with
    | error err => rfl
    | ok scm =>
      dsimp only
      by_cases same : scm.usage = usage
      · rw [if_pos same, if_pos same]
        cases t.getTarget p entry.1 <;> rfl
      · rw [if_neg same, if_neg same]
        rfl

theorem foldlM_matchTarget (entries : List TargetEntry) (matched : List TargetFile) :
    entries.foldlM (matchTarget p t custom usage) matched =
      ((ofUsage custom usage entries).mapM (fetch p t)).map (matched ++ ·) := by
  induction entries generalizing matched with
  | nil => simp [ofUsage, pure, Except.pure, Except.map]
  | cons first rest ih =>
    rw [List.foldlM_cons, matchTarget_eq]
    cases status : usageStatus custom usage first.1 with
    | none =>
      have skipped : ofUsage custom usage (first :: rest) = ofUsage custom usage rest := by
        simp [ofUsage, status]
      rw [skipped, ← ih]
      rfl
    | some known =>
      have taken : ofUsage custom usage (first :: rest) =
          (first.1, known) :: ofUsage custom usage rest := by
        simp [ofUsage, status]
      rw [taken, List.mapM_cons, Option.elim_some]
      cases fetch p t (first.1, known) with
      | error err => rfl
      | ok file =>
        show rest.foldlM (matchTarget p t custom usage) (matched ++ [file]) = _
        rw [ih]
        cases (ofUsage custom usage rest).mapM (fetch p t) with
        | error err => rfl
        | ok files => simp [Except.map, bind, Except.bind, pure, Except.pure]

theorem foldl_matchFallback (fallbacks : List String) (matched : List TargetFile) :
    fallbacks.foldl (matchFallback p t) matched = matched ++ fallbackFiles p t fallbacks := by
  induction fallbacks generalizing matched with
  | nil => simp [fallbackFiles]
  | cons first rest ih =>
    rw [List.foldl_cons, ih]
    unfold matchFallback fallbackFiles
    cases got : t.getTarget p first with
    | error err => simp [got, Except.toOption]
    | ok target => simp [got, Except.toOption]

/-! ## The targets of the usage -/

/-- The usage and the status of a target are those that its custom text tells. -/
theorem usageStatus_eq_some {name : String} :
    usageStatus custom usage name = some status ↔
      ∃ text, custom name = some text ∧ Describes text usage status := by
  unfold usageStatus
  cases custom name with
  | none => simp
  | some text =>
    simp only [Option.some.injEq, exists_eq_left', ← unmarshalCustom_eq_ok]
    cases unmarshalCustom text with
    | error err => simp
    | ok scm =>
      cases scm
      simp

/-- The targets of the usage are found in every order of the map. -/
theorem mem_ofUsage {order : RangeOrder TargetFileMeta} {name : String} :
    (name, status) ∈ ofUsage custom usage (order.arrange t.store.localMeta.targets).entries ↔
      OfUsage t custom usage name status := by
  unfold ofUsage OfUsage
  rw [List.mem_filterMap]
  constructor
  · intro ⟨entry, visited, found⟩
    have ⟨held, known, same⟩ := Option.map_eq_some_iff.mp found
    cases same
    exact ⟨GoMap.mem_of_lookup (order.mem_arrange.mp visited), usageStatus_eq_some.mp known⟩
  · intro ⟨listed, known⟩
    have ⟨validMeta, found⟩ := GoMap.exists_lookup listed
    have status := usageStatus_eq_some.mpr known
    exact ⟨⟨name, validMeta⟩, order.mem_arrange.mpr found, by rw [status]; rfl⟩

theorem nodup_ofUsage (targets : GoMap TargetFileMeta) :
    ((ofUsage custom usage targets.entries).map Prod.fst).Nodup := by
  have names : ∀ entries : List TargetEntry, (ofUsage custom usage entries).map Prod.fst =
      (entries.map Sigma.fst).filter fun name => (usageStatus custom usage name).isSome := by
    intro entries
    induction entries with
    | nil => rfl
    | cons first rest ih =>
      cases status : usageStatus custom usage first.1 <;>
        simpa [ofUsage, status] using ih
  rw [names]
  exact (AList.keys_nodup targets).filter _

/-! ## The whole call -/

section Call

variable {order : RangeOrder TargetFileMeta} {fallbacks : List String}

/-- If there is a target of the usage, the call gets those of the usage. -/
theorem getTargetsByMeta_of_usage (known : ∃ name status, OfUsage t custom usage name status) :
    t.getTargetsByMeta p custom usage none order fallbacks =
      (ofUsage custom usage (order.arrange t.store.localMeta.targets).entries).mapM
        (fetch p t) := by
  have ⟨name, status, of⟩ := known
  have listed : (name, status) ∈
      ofUsage custom usage (order.arrange t.store.localMeta.targets).entries := mem_ofUsage.mpr of
  unfold TUF.getTargetsByMeta
  dsimp only
  rw [foldlM_matchTarget]
  cases got : (ofUsage custom usage (order.arrange t.store.localMeta.targets).entries).mapM
      (fetch p t) with
  | error err => rfl
  | ok files =>
    have nonempty : files.isEmpty = false := by
      have lengths := (mapM_eq_ok.mp got).length_eq
      cases files with
      | cons first rest => rfl
      | nil =>
        rw [List.length_eq_zero_iff.mp lengths] at listed
        cases listed
    simp [Except.map, bind, Except.bind, nonempty]

theorem getTargetsByMeta_fallback (unknown : ¬∃ name status, OfUsage t custom usage name status) :
    t.getTargetsByMeta p custom usage none order fallbacks =
      if fallbackFiles p t fallbacks = [] then
        .error ⟨"no matching targets by custom metadata, fallbacks not found: " ++
          ", ".intercalate fallbacks⟩
      else .ok (fallbackFiles p t fallbacks) := by
  have unmatched : ofUsage custom usage (order.arrange t.store.localMeta.targets).entries = [] := by
    apply List.eq_nil_iff_forall_not_mem.mpr
    intro target listed
    exact unknown ⟨target.1, target.2, mem_ofUsage.mp listed⟩
  unfold TUF.getTargetsByMeta
  dsimp only
  rw [foldlM_matchTarget, unmatched]
  simp [Except.map, bind, Except.bind, pure, Except.pure, foldl_matchFallback,
    List.isEmpty_iff]

/-- If there is a target of the usage, the call succeeds exactly when all of them can be verified,
and then it returns exactly them. -/
theorem getTargetsByMeta_known (known : ∃ name status, OfUsage t custom usage name status) :
    ((∃ files, t.getTargetsByMeta p custom usage none order fallbacks = .ok files) ↔
      ∀ name status, OfUsage t custom usage name status → ∃ bytes, VerifiedTarget p t name bytes) ∧
    ∀ files, t.getTargetsByMeta p custom usage none order fallbacks = .ok files →
      ExactlyOfUsage p t custom usage files := by
  rw [getTargetsByMeta_of_usage known]
  constructor
  · rw [exists_mapM_eq_ok]
    constructor
    · intro all name status of
      have ⟨file, got⟩ := all (name, status) (mem_ofUsage.mpr of)
      exact ⟨file.target, (fetch_eq_ok.mp got).1⟩
    · intro all target listed
      have ⟨bytes, verified⟩ := all target.1 target.2 (mem_ofUsage.mp listed)
      exact ⟨⟨bytes, target.2⟩, fetch_eq_ok.mpr ⟨verified, rfl⟩⟩
  · intro files got
    refine ⟨ofUsage custom usage (order.arrange t.store.localMeta.targets).entries,
      nodup_ofUsage _, fun name status => mem_ofUsage, ?_⟩
    exact (mapM_eq_ok.mp got).imp fun target file => fetch_eq_ok.mp

/-- If there is none, the call succeeds exactly with the fallbacks that can be verified. -/
theorem getTargetsByMeta_unknown (unknown : ¬∃ name status, OfUsage t custom usage name status):
    t.getTargetsByMeta p custom usage none order fallbacks = .ok files ↔
      files ≠ [] ∧ files = fallbackFiles p t fallbacks := by
  rw [getTargetsByMeta_fallback unknown]
  by_cases empty : fallbackFiles p t fallbacks = []
  · rw [if_pos empty]
    exact ⟨nofun, fun both => absurd (both.2.trans empty) both.1⟩
  · rw [if_neg empty, Except.ok.injEq]
    exact ⟨fun same => ⟨same ▸ empty, same.symm⟩, fun both => both.2.symm⟩

theorem getTargetsByMeta_ne_nil {failure : Option GoError}
    (succeeds : t.getTargetsByMeta p custom usage failure order fallbacks = .ok files) :
    files ≠ [] := by
  cases failure with
  | some err => cases succeeds
  | none =>
    have ⟨matched, _, ends⟩ := bind_eq_value.mp succeeds
    dsimp only at ends
    generalize (if matched.isEmpty then _ else matched) = final at ends
    split at ends
    · cases ends
    · rename_i nonempty
      cases ends
      exact fun empty => nonempty (List.isEmpty_iff.mpr empty)

/-- In another order the call returns the same files in some order. -/
theorem getTargetsByMeta_perm
    (succeeds : t.getTargetsByMeta p custom usage none order fallbacks = .ok files)
    (other : RangeOrder TargetFileMeta) :
    ∃ files', t.getTargetsByMeta p custom usage none other fallbacks = .ok files' ∧
      files'.Perm files := by
  by_cases known : ∃ name status, OfUsage t custom usage name status
  · rw [getTargetsByMeta_of_usage known] at succeeds ⊢
    have visited := ((other.perm t.store.localMeta.targets).trans
      (order.perm t.store.localMeta.targets).symm).filterMap fun entry =>
        (usageStatus custom usage entry.1).map fun status => (entry.1, status)
    have ⟨files', got, same⟩ := List.perm_comp_forall₂ visited (mapM_eq_ok.mp succeeds)
    exact ⟨files', mapM_eq_ok.mpr got, same⟩
  · rw [getTargetsByMeta_fallback known] at succeeds ⊢
    exact ⟨files, succeeds, .refl _⟩

end Call

/-- **Trusted targets.** A call that succeeds returns a non-empty list. If the metadata list a
target with well-formed custom metadata of the usage, the call succeeds exactly if all of these can
be verified, and returns exactly them, with verified bytes and their own status. If not, it returns
the fallbacks that can be verified, in order and active, if there is one. Another order of the map
gives the same files. -/
theorem targets_by_meta (p : TufPlatform) (t : TUF) (custom : String → Option Bytes)
    (usage : UsageKind) (fallbacks : List String) :
    (∀ name bytes, t.getTarget p name = .ok bytes ↔ VerifiedTarget p t name bytes) ∧
    (∀ err order, t.getTargetsByMeta p custom usage (some err) order fallbacks =
      .error (err.wrap "error getting targets")) ∧
    (∀ failure order files,
      t.getTargetsByMeta p custom usage failure order fallbacks = .ok files → files ≠ []) ∧
    ((∃ name status, OfUsage t custom usage name status) → ∀ order,
      ((∃ files, t.getTargetsByMeta p custom usage none order fallbacks = .ok files) ↔
        ∀ name status, OfUsage t custom usage name status →
          ∃ bytes, VerifiedTarget p t name bytes) ∧
      ∀ files, t.getTargetsByMeta p custom usage none order fallbacks = .ok files →
        ExactlyOfUsage p t custom usage files) ∧
    ((¬∃ name status, OfUsage t custom usage name status) → ∀ order files,
      t.getTargetsByMeta p custom usage none order fallbacks = .ok files ↔
        files ≠ [] ∧ files = fallbackFiles p t fallbacks) ∧
    ∀ order files, t.getTargetsByMeta p custom usage none order fallbacks = .ok files →
      ∀ other, ∃ files', t.getTargetsByMeta p custom usage none other fallbacks = .ok files' ∧
        files'.Perm files := by
  refine ⟨fun name bytes => getTarget_eq_ok, fun _ _ => rfl,
    fun _ _ _ => getTargetsByMeta_ne_nil, ?_, ?_, fun _ _ => getTargetsByMeta_perm⟩
  · intro known order
    exact getTargetsByMeta_known known
  · intro unknown order files
    exact getTargetsByMeta_unknown unknown

end Cosign.Verif
