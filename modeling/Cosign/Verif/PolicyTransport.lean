import Cosign.Verif.EntryReading
import Cosign.Verif.Inlining
import Cosign.Verif.Interleaving
import Cosign.Verif.KeyData

/-!
# What becomes of a policy that validation accepts

A policy is validated, its keys are inlined, it is converted and marshalled, and the webhook reads
it from the map together with the other policies. What a secret or a key management service returns,
the certificate and the address of a keyless authority, the address of a log and the repository of a
source are not looked at before that. If one of them cannot be read, the webhook reads no policy at
all (`accepted_policy_survives_iff`).
-/
namespace Cosign.Verif

open Cosign.Go Cosign.Encoding Cosign.Verify Cosign.Webhook Cosign.Spec
open Cosign.V1alpha1 (isValidKey)

variable {policy : V1alpha1.ClusterImagePolicy V1alpha1.KeyRef}
  {authority : V1alpha1.Authority V1alpha1.KeyRef} {key : V1alpha1.KeyRef} {read : Authority}

section Conditions

variable (p : WebhookPlatform) (lookups : Lookups)

/-- The text of a key after inlining. -/
def inlinedText (key : V1alpha1.KeyRef) : String :=
  match inlineAndTrackSecret p lookups key >>= inlineKMS lookups with
  | .ok key => key.data
  | .error _ => ""

/-- The text of a certificate after inlining, which asks no key management service. -/
def certificateText (key : V1alpha1.KeyRef) : String :=
  match inlineAndTrackSecret p lookups key with
  | .ok key => key.data
  | .error _ => ""

/-- The keyless authority that the entry of a policy has for one of the policy. -/
def transportedKeyless (keyless : V1alpha1.KeylessRef V1alpha1.KeyRef) : KeylessRef where
  url := keyless.url
  identities := keyless.identities.getD []
  caCert := keyless.caCert.map fun key => ⟨certificateText p lookups key, []⟩

/-- The authority that the entry of a policy has for one of the policy. -/
def transported (authority : V1alpha1.Authority V1alpha1.KeyRef) : Authority where
  key := authority.key.map fun key => ⟨inlinedText p lookups key, []⟩
  keyless := authority.keyless.map (transportedKeyless p lookups)
  sources := authority.sources
  ctlog := authority.ctlog
  remoteOpts := []

/-- What validation does not look at in an authority can be read by the webhook. -/
structure Loads (authority : V1alpha1.Authority V1alpha1.KeyRef) : Prop where
  /-- A key from a secret or from a key management service. -/
  key : ∀ key ∈ authority.key, key.data = "" → TextLoads p (inlinedText p lookups key)
  certificate : ∀ keyless ∈ authority.keyless, ∀ key ∈ keyless.caCert,
    TextLoads p (certificateText p lookups key)
  /-- The address of Fulcio. -/
  fulcio : ∀ keyless ∈ authority.keyless, ∀ url ∈ keyless.url, ∃ read, loadUrl p url = .ok read
  /-- The address of the log. -/
  log : ∀ tlog ∈ authority.ctlog, ∀ url ∈ tlog.url, ∃ read, loadUrl p url = .ok read
  /-- The repositories of the sources. -/
  sources : ∀ source ∈ authority.sources, ∃ repository, p.newRepository source.oci = .ok repository

/-- What is left of an authority is something that can be checked. -/
structure Checks (authority : V1alpha1.Authority V1alpha1.KeyRef) : Prop where
  /-- A key from a secret or from a key management service is a public key. -/
  key : ∀ key ∈ authority.key, key.data = "" →
    isValidKey p (utf8Bytes (inlinedText p lookups key)) = true
  /-- A keyless authority names Fulcio. -/
  fulcio : ∀ keyless ∈ authority.keyless, keyless.url ≠ none

/-- The webhook has the authority that the policy has: with at least one public key if it has a
key, and otherwise with something that is checked. -/
structure Carried (original : V1alpha1.Authority V1alpha1.KeyRef) (read : Authority) : Prop where
  /-- The same sources. -/
  sources : read.sources = original.sources
  /-- The same identities, if it is keyless. -/
  identities : read.keyless.map KeylessRef.identities =
    original.keyless.map fun keyless => keyless.identities.getD []
  /-- A log where there was one. -/
  log : read.ctlog.isSome = original.ctlog.isSome
  /-- The keys of the text of its key, of which there is one. -/
  keys : ∀ key ∈ original.key,
    convertKeyDataToPublicKeys p (inlinedText p lookups key) = .ok read.publicKeys ∧
      read.publicKeys ≠ []
  /-- Something that is checked. -/
  checked : original.keyless.isSome → Checkable read

/-- The webhook reads the map and has in it a policy with the same images and the same
authorities, in the same order. -/
def PolicySurvives (data : GoMap String)
    (policy : V1alpha1.ClusterImagePolicy V1alpha1.KeyRef) : Prop :=
  ∃ config read, newImagePoliciesConfigFromMap p data = .ok config ∧
    config.policies.lookup policy.name.text = some read ∧
    read.images = policy.images.getD [] ∧
    List.Forall₂ (Carried p lookups) policy.authorities read.authorities

/-- The entries other than that of a policy can be read. -/
def OthersParse (data : GoMap String) (name : String) : Prop :=
  ∀ key text, data.lookup key = some text → key ≠ name → key ≠ "_example" → EntryParses p text

end Conditions

/-! ## What validation accepts -/

section Accepted

variable {p : WebhookPlatform}

@[simp] theorem errorIf_eq_nil {wrong : Bool} {err : FieldError} :
    V1alpha1.errorIf wrong err = [] ↔ wrong = false := by
  cases wrong <;> simp [V1alpha1.errorIf]

theorem viaElements_eq_nil {α : Type} {validate : α → FieldErrors} {field : String}
    {elements : List α} :
    V1alpha1.viaElements validate field elements = [] ↔
      ∀ element ∈ elements, validate element = [] := by
  simp only [V1alpha1.viaElements, List.flatMap_eq_nil_iff, List.map_eq_nil_iff]
  have firsts : elements.zipIdx.map Prod.fst = elements := List.zipIdx_map_fst 0 elements
  conv_rhs => rw [← firsts]
  rw [List.forall_mem_map]

theorem accepted_authorities (accepted : policy.validate p = []) : ∀ authority ∈ policy.authorities,
      authority.validate p = [] := by
  simp only [V1alpha1.ClusterImagePolicy.validate, FieldErrors.viaField, List.map_eq_nil_iff,
    List.append_eq_nil_iff, viaElements_eq_nil] at accepted
  exact accepted.2

/-- An accepted authority has no key or is not keyless, and its key is accepted. -/
theorem accepted_key (accepted : authority.validate p = []) :
    (authority.key = none ∨ authority.keyless = none) ∧
      ∀ key ∈ authority.key, key.validate p = [] := by
  simp only [V1alpha1.Authority.validate, FieldErrors.viaField, List.append_eq_nil_iff,
    errorIf_eq_nil, List.flatMap_eq_nil_iff, List.map_eq_nil_iff, Option.mem_toList] at accepted
  obtain ⟨⟨⟨⟨-, single⟩, keyed⟩, -⟩, -⟩ := accepted
  refine ⟨?_, keyed⟩
  cases keyed : authority.key with
  | none => exact .inl rfl
  | some key =>
    right
    simpa [keyed] using single

/-- Inline data that is accepted is a public key, and nothing else is given. -/
theorem accepted_data (accepted : key.validate p = []) (inline : key.data ≠ "") :
    key.kms = "" ∧ key.secretRef = none ∧ isValidKey p (utf8Bytes key.data) = true := by
  simp only [V1alpha1.KeyRef.validate, List.append_eq_nil_iff, if_pos inline,
    errorIf_eq_nil] at accepted
  simpa [and_assoc] using accepted.2

theorem accepted_text (lookups : Lookups) (accepted : key.validate p = [])
    (inline : key.data ≠ "") : isValidKey p (utf8Bytes (inlinedText p lookups key)) = true := by
  obtain ⟨noKMS, noSecret, valid⟩ := accepted_data accepted inline
  have same : inlineAndTrackSecret p lookups key >>= inlineKMS lookups = .ok key := by
    simp [inlineAndTrackSecret, inlineKMS, noKMS, noSecret, bind, Except.bind]
  unfold inlinedText
  rw [same]
  exact valid

end Accepted

/-! ## What an entry has -/

section Transport

variable {p : WebhookPlatform} {lookups : Lookups}

theorem inlinedText_eq {key middle result : V1alpha1.KeyRef}
    (secret : inlineAndTrackSecret p lookups key = .ok middle)
    (kms : inlineKMS lookups middle = .ok result) : inlinedText p lookups key = result.data := by
  have both : inlineAndTrackSecret p lookups key >>= inlineKMS lookups = .ok result :=
    bind_eq_value.mpr ⟨middle, secret, kms⟩
  unfold inlinedText
  rw [both]

theorem convert_inlinedKeyless {keyless result : V1alpha1.KeylessRef V1alpha1.KeyRef}
    (ran : inlinedKeyless p lookups keyless = .ok result) :
    convertKeylessRefV1Alpha1ToWebhook result = transportedKeyless p lookups keyless := by
  obtain ⟨caCert, inlined, same⟩ := bind_eq_value.mp ran
  have related := optionMapM_eq_ok inlined
  rw [← Except.ok.inj same]
  unfold convertKeylessRefV1Alpha1ToWebhook transportedKeyless
  dsimp only
  congr 1
  generalize keyless.caCert = original at related ⊢
  cases related with
  | none => rfl
  | some found =>
    simp only [Option.map_some, certificateText, found]
    rfl

theorem convert_inlinedAuthority {authority result : V1alpha1.Authority V1alpha1.KeyRef}
    (ran : inlinedAuthority p lookups authority = .ok result) :
    convertAuthorityV1Alpha1ToWebhook result = transported p lookups authority := by
  obtain ⟨middle, secrets, ran⟩ := bind_eq_value.mp ran
  obtain ⟨keyless, keylessRan, ran⟩ := bind_eq_value.mp ran
  obtain ⟨key, kms, same⟩ := bind_eq_value.mp ran
  have first := optionMapM_eq_ok secrets
  have second := optionMapM_eq_ok kms
  have certified := optionMapM_eq_ok keylessRan
  rw [← Except.ok.inj same]
  have keyed : key.map convertKeyRefV1Alpha1ToWebhook =
      authority.key.map fun key => ⟨inlinedText p lookups key, []⟩ := by
    generalize authority.key = original at first ⊢
    cases first with
    | none =>
      cases second
      rfl
    | some fetched =>
      cases second with
      | some asked =>
        rw [Option.map_some, Option.map_some, inlinedText_eq fetched asked]
        rfl
  have keylessSame : keyless.map convertKeylessRefV1Alpha1ToWebhook =
      authority.keyless.map (transportedKeyless p lookups) := by
    generalize authority.keyless = original at certified ⊢
    cases certified with
    | none => rfl
    | some found => rw [Option.map_some, Option.map_some, convert_inlinedKeyless found]
  unfold convertAuthorityV1Alpha1ToWebhook transported
  dsimp only
  rw [keyed, keylessSame]

/-- **The entry of a policy that is inlined.** -/
theorem convert_inlined {policy result : V1alpha1.ClusterImagePolicy V1alpha1.KeyRef}
    (ran : inlined p lookups policy = .ok result) :
    convertClusterImagePolicyV1alpha1ToWebhook result =
      ⟨policy.images, policy.authorities.map (transported p lookups)⟩ := by
  obtain ⟨authorities, inlined, same⟩ := bind_eq_value.mp ran
  rw [← Except.ok.inj same]
  unfold convertClusterImagePolicyV1alpha1ToWebhook
  dsimp only
  congr 1
  have related := mapM_eq_ok.mp inlined
  generalize policy.authorities = original at related ⊢
  clear inlined same
  induction related with
  | nil => rfl
  | cons found _ ih => rw [List.map_cons, List.map_cons, convert_inlinedAuthority found, ih]

end Transport

/-! ## What is read from an entry -/

section Reading

variable {p : WebhookPlatform} {lookups : Lookups}

/-- **An accepted authority is read** exactly when what validation does not look at can be read. -/
theorem loads_iff (accepted : authority.validate p = []) :
    (∃ read, loadAuthority p (transported p lookups authority) = .ok read) ↔
      Loads p lookups authority := by
  have inline : ∀ key ∈ authority.key, key.data ≠ "" → TextLoads p (inlinedText p lookups key) := by
    intro key given filled
    have valid := accepted_text lookups ((accepted_key accepted).2 key given) filled
    obtain ⟨keys, loaded, -⟩ := (isValidKey_iff p _).mp valid
    exact .inr ⟨keys, loaded⟩
  rw [exists_loadAuthority_iff]
  simp only [exists_optionMapM_eq_ok, exists_sourceOptions_iff, exists_loadTLog_iff,
    exists_loadKeyless_iff, exists_loadKey_iff, transported, transportedKeyless, Option.mem_map,
    forall_exists_index, and_imp, forall_apply_eq_imp_iff₂]
  constructor
  · rintro ⟨logged, keyed, certified, sourced⟩
    exact ⟨fun key given _ => keyed key given, fun keyless given => (certified keyless given).1,
      fun keyless given => (certified keyless given).2, logged, sourced⟩
  · intro loads
    refine ⟨loads.log, fun key given => ?_, fun keyless given =>
      ⟨loads.certificate keyless given, loads.fulcio keyless given⟩, loads.sources⟩
    by_cases empty : key.data = ""
    · exact loads.key key given empty
    · exact inline key given empty

theorem publicKeys_of_valid
    (keyed : (transported p lookups authority).key.mapM (loadKey p) = .ok read.key)
    (given : key ∈ authority.key)
    (valid : isValidKey p (utf8Bytes (inlinedText p lookups key)) = true) :
    convertKeyDataToPublicKeys p (inlinedText p lookups key) = .ok read.publicKeys ∧
      read.publicKeys ≠ [] := by
  obtain ⟨keys, loaded, nonempty⟩ := (isValidKey_iff p _).mp valid
  have filled : inlinedText p lookups key ≠ "" := by
    intro empty
    rw [empty] at valid
    exact Bool.noConfusion ((isValidKey_nil p).symm.trans valid)
  have ran : loadKey p ⟨inlinedText p lookups key, []⟩ = .ok ⟨inlinedText p lookups key, keys⟩ :=
    (loadKey_eq_ok filled).mpr ⟨keys, loaded, rfl⟩
  have found : read.key = some ⟨inlinedText p lookups key, keys⟩ := by
    simp only [transported, Option.mem_def.mp given, Option.map_some] at keyed
    simpa [ran, Functor.map, Except.map] using keyed.symm
  have same : read.publicKeys = keys := by simp [Authority.publicKeys, found]
  rw [same]
  exact ⟨loaded, nonempty⟩

/-- The keyless authority that the webhook has names Fulcio if that of the policy does. -/
theorem fulcioOf_isSome {keyless : V1alpha1.KeylessRef V1alpha1.KeyRef}
    (certified : (transported p lookups authority).keyless.mapM (loadKeyless p) = .ok read.keyless)
    (given : keyless ∈ authority.keyless) : (fulcioOf read).isSome = keyless.url.isSome := by
  have related := optionMapM_eq_ok certified
  simp only [transported, Option.mem_def.mp given, Option.map_some] at related
  unfold fulcioOf
  generalize read.keyless = found at related ⊢
  cases related with
  | some ran => exact (loadKeyless_eq_ok ran).2

theorem identities_eq
    (certified :
      (transported p lookups authority).keyless.mapM (loadKeyless p) = .ok read.keyless) :
    read.keyless.map KeylessRef.identities =
      authority.keyless.map fun keyless => keyless.identities.getD [] := by
  have related := optionMapM_eq_ok certified
  unfold transported at related
  dsimp only at related
  generalize read.keyless = found at related ⊢
  cases keyless : authority.keyless with
  | none =>
    rw [keyless] at related
    cases related
    rfl
  | some original =>
    rw [keyless] at related
    cases related with
    | some ran => exact congrArg some (loadKeyless_eq_ok ran).1

/-- **An accepted authority that is read is carried** exactly when what is left of it can be
checked. -/
theorem carried_iff (accepted : authority.validate p = [])
    (loaded : loadAuthority p (transported p lookups authority) = .ok read) :
    Carried p lookups authority read ↔ Checks p lookups authority := by
  obtain ⟨logged, keyed, certified, -, sources⟩ := loadAuthority_eq_ok.mp loaded
  obtain ⟨single, keysAccepted⟩ := accepted_key accepted
  constructor
  · intro carried
    refine ⟨fun key given _ => (isValidKey_iff p _).mpr ⟨_, carried.keys key given⟩, ?_⟩
    intro keyless given
    have unkeyed : authority.key = none :=
      single.resolve_right fun missing => Option.some_ne_none _ (given.symm.trans missing)
    have noKeys : read.publicKeys = [] := by
      have missing : read.key = none := by
        simpa [transported, unkeyed, pure, Except.pure] using keyed.symm
      simp [Authority.publicKeys, missing]
    have named : fulcioOf read ≠ none :=
      (carried.checked (Option.isSome_of_mem given)).resolve_left fun keyed => keyed noKeys
    rw [← Option.isSome_iff_ne_none, fulcioOf_isSome certified given] at named
    exact Option.isSome_iff_ne_none.mp named
  · intro checks
    refine ⟨sources, identities_eq certified, optionMapM_isSome logged, ?_, ?_⟩
    · intro key given
      apply publicKeys_of_valid keyed given
      by_cases empty : key.data = ""
      · exact checks.key key given empty
      · exact accepted_text lookups (keysAccepted key given) empty
    · intro isKeyless
      obtain ⟨keyless, given⟩ := Option.isSome_iff_exists.mp isKeyless
      right
      rw [← Option.isSome_iff_ne_none, fulcioOf_isSome certified given]
      exact Option.isSome_iff_ne_none.mpr (checks.fulcio keyless given)

end Reading

/-! ## Survival -/

section Survival

variable {p : WebhookPlatform} {lookups : Lookups}

theorem name_ne_example (name : V1alpha1.ObjectName) : name.text ≠ "_example" := by
  intro same
  have subdomain := name.subdomain
  rw [same] at subdomain
  revert subdomain
  decide

/-- The map is read when the entry of the policy and the other entries are. -/
theorem exists_config_iff_others {data : GoMap String} {name text : String}
    (named : name ≠ "_example") (listed : data.lookup name = some text) :
    (∃ config, newImagePoliciesConfigFromMap p data = .ok config) ↔
      EntryParses p text ∧ OthersParse p data name := by
  rw [exists_config_iff]
  constructor
  · intro parses
    exact ⟨parses name text listed named, fun key other found _ => parses key other found⟩
  · intro parses key other found notExample
    by_cases same : key = name
    · rw [same, listed] at found
      cases found
      exact parses.1
    · exact parses.2 key other found same notExample

theorem loadPolicy_eq_ok {read : ClusterImagePolicy} :
    loadPolicy p ⟨policy.images, policy.authorities.map (transported p lookups)⟩ = .ok read ↔
      read.images = policy.images.getD [] ∧
        List.Forall₂ (fun authority found => loadAuthority p (transported p lookups authority) =
          .ok found) policy.authorities read.authorities := by
  unfold loadPolicy
  rw [bind_eq_value]
  simp only [mapM_eq_ok, List.forall₂_map_left_iff]
  constructor
  · intro found
    obtain ⟨authorities, related, same⟩ := found
    rw [← Except.ok.inj same]
    exact ⟨rfl, related⟩
  · intro found
    refine ⟨read.authorities, found.2, ?_⟩
    rw [← found.1]

/-- The entry of a policy with accepted authorities is read exactly when each of them loads. -/
theorem exists_loadPolicy_iff
    (accepted : ∀ authority ∈ policy.authorities, authority.validate p = []) :
    (∃ read, loadPolicy p ⟨policy.images, policy.authorities.map (transported p lookups)⟩ =
        .ok read) ↔
      ∀ authority ∈ policy.authorities, Loads p lookups authority := by
  have loop : (∃ read, loadPolicy p
      ⟨policy.images, policy.authorities.map (transported p lookups)⟩ = .ok read) ↔
      ∃ authorities, (policy.authorities.map (transported p lookups)).mapM (loadAuthority p) =
        .ok authorities := by
    unfold loadPolicy
    dsimp only
    cases (policy.authorities.map (transported p lookups)).mapM (loadAuthority p) <;>
      simp [bind, Except.bind]
  rw [loop, exists_mapM_eq_ok, List.forall_mem_map]
  exact forall₂_congr fun authority listed => loads_iff (accepted authority listed)

/-- A policy that is read survives exactly when what is left of each authority can be checked. -/
theorem survives_iff_checks {data : GoMap String}
    {config : ImagePolicyConfig}
    {read : ClusterImagePolicy}
    (accepted : ∀ authority ∈ policy.authorities, authority.validate p = [])
    (configured : newImagePoliciesConfigFromMap p data = .ok config)
    (found : config.policies.lookup policy.name.text = some read)
    (loaded : loadPolicy p ⟨policy.images, policy.authorities.map (transported p lookups)⟩ =
      .ok read) :
    PolicySurvives p lookups data policy ↔
      ∀ authority ∈ policy.authorities, Checks p lookups authority := by
  obtain ⟨images, related⟩ := loadPolicy_eq_ok.mp loaded
  have carriedIff : List.Forall₂ (Carried p lookups) policy.authorities read.authorities ↔
      ∀ authority ∈ policy.authorities, Checks p lookups authority :=
    forall₂_iff_forall related fun authority listed _ here =>
      carried_iff (accepted authority listed) here
  rw [← carriedIff]
  constructor
  · rintro ⟨config', read', configured', found', -, carried⟩
    cases configured.symm.trans configured'
    cases found.symm.trans found'
    exact carried
  · intro carried
    exact ⟨config, read, configured, found, images, carried⟩

/-- **What an accepted policy needs to survive.** For a policy that validation accepts and whose
keys are inlined: if the YAML library refuses its entry, no policy of the map is read. If it reads
the entry as JSON, the map is read exactly when the other entries can be read and every authority of
the policy loads; the policy survives exactly when, moreover, what is left of every authority can be
checked. -/
theorem accepted_policy_survives_iff (object : Object) (accepted : object.value.validate p = [])
    (ret : V1alpha1.ClusterImagePolicy Nat) (heap : KeyHeap)
    (inlines : inlinePublicKeys p lookups object.policy object.heap = (.ok ret, heap))
    (spec : ConvertedPolicy)
    (converts : spec = convertClusterImagePolicyV1alpha1ToWebhook (ret.map heap.cell))
    (data : GoMap String) (published : data.lookup object.policy.name.text = some (marshal spec)) :
    ((∃ err, p.yamlToJSON (utf8Bytes (marshal spec)) = .error err) →
      ¬∃ config, newImagePoliciesConfigFromMap p data = .ok config) ∧
    (ReadsAsJson p spec →
      ((∃ config, newImagePoliciesConfigFromMap p data = .ok config) ↔
        (∀ authority ∈ object.value.authorities, Loads p lookups authority) ∧
          OthersParse p data object.policy.name.text) ∧
      (PolicySurvives p lookups data object.value ↔
        (∀ authority ∈ object.value.authorities,
          Loads p lookups authority ∧ Checks p lookups authority) ∧
          OthersParse p data object.policy.name.text)) := by
  have ran := inlinePublicKeys_refines p lookups object
  rw [inlines] at ran
  have computes : inlined p lookups object.value = .ok (ret.map heap.cell) := by
    cases ran with
    | done _ _ _ computes => exact computes
  rw [convert_inlined computes] at converts
  have named := name_ne_example object.policy.name
  have authorities := accepted_authorities accepted
  have whole : (∃ config, newImagePoliciesConfigFromMap p data = .ok config) ↔ _ :=
    exists_config_iff_others named published
  refine ⟨fun refused => ?_, fun read => ?_⟩
  · obtain ⟨err, refused⟩ := refused
    rw [whole]
    exact fun parses => parses.1.2.elim (parseEntry_refused p refused)
  · have parsed : parseEntry p (marshal spec) = loadPolicy p spec := parseEntry_marshal p read
    have own : EntryParses p (marshal spec) ↔
        ∀ authority ∈ object.value.authorities, Loads p lookups authority := by
      rw [EntryParses, and_iff_right (marshal_ne_empty spec), parsed, converts]
      exact exists_loadPolicy_iff authorities
    rw [own] at whole
    refine ⟨whole, ?_⟩
    by_cases readable : ∃ config, newImagePoliciesConfigFromMap p data = .ok config
    · obtain ⟨loads, others⟩ := whole.mp readable
      obtain ⟨config, configured⟩ := readable
      obtain ⟨policy, loaded⟩ := (exists_loadPolicy_iff authorities).mpr loads
      have entryRead : parseEntry p (marshal spec) = .ok policy := by rw [parsed, converts, loaded]
      have found := config_lookup configured published named entryRead
      rw [survives_iff_checks authorities configured found loaded, and_iff_left others]
      exact forall₂_congr fun authority listed => (and_iff_right (loads authority listed)).symm
    · constructor
      · rintro ⟨config, -, configured, -⟩
        exact absurd ⟨config, configured⟩ readable
      · intro holds
        exact absurd (whole.mpr ⟨fun authority listed => (holds.1 authority listed).1, holds.2⟩)
          readable

end Survival

/-- A YAML library, on texts that are JSON. -/
def jsonAsYAML (bytes : Bytes) : Except GoError Bytes :=
  match Json.parse bytes with
  | some tree => .ok (Json.marshal tree.sorted)
  | none => .error ⟨"yaml: did not find expected node content"⟩

/-- A platform on which every text that is not empty is one PEM block, and no block a public key. -/
def certificateWebhook : WebhookPlatform :=
  { sampleWebhook with
    yamlToJSON := jsonAsYAML
    pemDecoder :=
      { decode := fun data => if data = [] then none else some (data, [])
        shorter := by
          intro data block rest decoded
          split at decoded
          · cases decoded
          · rename_i filled
            cases decoded
            exact List.length_pos_iff.mpr filled }
    parsePKIXPublicKey := fun _ => .error ⟨"asn1: structure error: tags don't match"⟩ }

/-- A policy in memory, for every image and with a keyless authority that has a certificate. -/
def certificateObject : Object where
  policy := ⟨teamB, some [⟨"*", ""⟩], [⟨none, some ⟨none, none, some 0⟩, [], none⟩]⟩
  heap := ⟨fun _ => ⟨none, "-----BEGIN CERTIFICATE-----\nMIIB\n-----END CERTIFICATE-----\n", ""⟩, 1⟩
  allocated := by simp [pointers]

/-- The entry of that policy, whose certificate is inline. -/
def certificateEntry : String :=
  marshal (convertClusterImagePolicyV1alpha1ToWebhook certificateObject.value)

/-- **An accepted policy makes the others unreadable.** The certificate of a keyless authority is
accepted unseen, and the webhook parses it as a public key: with the policy, none of the map is
read. -/
theorem certificate_hides_policies :
    certificateObject.value.validate certificateWebhook = [] ∧
    (∃ ret heap, inlinePublicKeys certificateWebhook noLookups certificateObject.policy
        certificateObject.heap = (.ok ret, heap) ∧
      marshal (convertClusterImagePolicyV1alpha1ToWebhook (ret.map heap.cell)) =
        certificateEntry) ∧
    (newImagePoliciesConfigFromMap certificateWebhook
      (AList.insert "team-a" (keylessEntry teamA) ∅)).isOk = true ∧
    (newImagePoliciesConfigFromMap certificateWebhook
      (AList.insert "team-b" certificateEntry
        (AList.insert "team-a" (keylessEntry teamA) ∅))).isOk = false := by
  refine ⟨by decide +kernel, ⟨_, _, rfl, rfl⟩, by decide +kernel, by decide +kernel⟩

/-- A policy with a keyless authority that names Fulcio survives. -/
theorem accepted_policy_survives_iff_fulcio :
    (keylessObject teamA).value.validate certificateWebhook = [] ∧
    PolicySurvives certificateWebhook noLookups (AList.insert "team-a" (keylessEntry teamA) ∅)
      (keylessObject teamA).value := by
  have accepted : (keylessObject teamA).value.validate certificateWebhook = [] := by decide +kernel
  have json (tree : Json) (writable : Json.Writable Json.maxNestingDepth tree) :
      certificateWebhook.yamlToJSON (Json.marshal tree) = .ok (Json.marshal tree.sorted) := by
    show jsonAsYAML (Json.marshal tree) = _
    rw [jsonAsYAML, Json.parse_marshal writable]
  have inlines : inlinePublicKeys certificateWebhook noLookups (keylessObject teamA).policy
      (keylessObject teamA).heap = (.ok (keylessObject teamA).policy, (keylessObject teamA).heap) :=
    rfl
  have published : (AList.insert "team-a" (keylessEntry teamA) (∅ : GoMap String)).lookup "team-a" =
      some (keylessEntry teamA) := AList.lookup_insert ∅
  have survives := accepted_policy_survives_iff (keylessObject teamA) accepted _ _ inlines _ rfl _
    published
  refine ⟨accepted, (survives.2 (readsAsJson_of_json json _)).2.mpr ⟨?_, ?_⟩⟩
  · intro authority listed
    cases List.mem_singleton.mp listed
    constructor
    · constructor
      all_goals intro part given; cases given
      · intro key missing
        cases missing
      · intro url named
        cases named
        exact ⟨_, rfl⟩
    · constructor
      all_goals intro part given; cases given
      exact Option.some_ne_none _
  · intro key text listed other
    have absent : AList.lookup key (∅ : GoMap String) = some text :=
      (AList.lookup_insert_ne other).symm.trans listed
    cases absent

end Cosign.Verif
