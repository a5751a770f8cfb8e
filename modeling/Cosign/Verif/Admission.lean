import Cosign.Go.Loop
import Cosign.Verif.Isolation
import Cosign.Verif.Matching
import Cosign.Verify.Entity

/-!
# Admission and the policies that check nothing

A pod is admitted when no container yields an error. An authority that the switch of
`ValidatePolicy` skips yields neither signatures nor an error, so a policy of such authorities
counts as validated. Admission is what it is for exactly when every policy that matches has another
authority (`admission_sound_iff`). The oracle of the webhook is met by the verification of image
signatures (`registryOracle`).
-/
namespace Cosign.Verif

open Cosign.Go Cosign.Encoding Cosign.Oci Cosign.Verify Cosign.Webhook Cosign.Spec

variable {p : WebhookPlatform} {oracle : SignatureOracle} {ref : Reference} {kc : Keychain}
  {co : CheckOpts} {sigs : List Signature} {keys : List PublicKey} {authority : Authority}
  {field : String} {i : Nat} {c : Container} {secret : Except GoError (GoMap Bytes)} {ps : PodSpec}
  {opt : KeychainOptions} {registry : Registry}

theorem vouched_of_verify
    (verified : oracle.verify ref co = .ok (.ok sigs)) : Vouched oracle ref co :=
  ⟨sigs, verified, oracle.nonempty ref co sigs verified⟩

/-- The loop over keys ends without an error only by finding signatures, once it has a key to
try or an error to report. -/
theorem validKeys_vouched {opts : List RemoteOption} {lastErr : Option GoError}
    (run : validKeys p oracle ref opts lastErr keys = .ok (sigs, none))
    (begun : lastErr ≠ none ∨ keys ≠ []) :
    ∃ co, KeyOptions p keys opts co ∧ Vouched oracle ref co := by
  induction keys generalizing lastErr with
  | nil =>
    cases run
    simp at begun
  | cons key rest ih =>
    have later (err : GoError)
        (run : validKeys p oracle ref opts (some err) rest = .ok (sigs, none)) :
        ∃ co, KeyOptions p (key :: rest) opts co ∧ Vouched oracle ref co := by
      obtain ⟨co, ⟨found, member, options⟩, vouched⟩ := ih run (.inl (Option.some_ne_none err))
      exact ⟨co, ⟨found, List.mem_cons_of_mem _ member, options⟩, vouched⟩
    unfold validKeys at run
    cases loaded : p.loadVerifier key with
    | error err =>
      simp only [loaded] at run
      exact later err run
    | ok verifier =>
      simp only [loaded] at run
      obtain ⟨answer, verified, run⟩ := bind_eq_ok.mp run
      cases answer with
      | error err => exact later err run
      | ok sps =>
        exact ⟨_, ⟨key, List.mem_cons_self, verifier, loaded, rfl⟩, vouched_of_verify verified⟩

/-- `valid` without an error means that the keys, or Fulcio when there are none, vouch. -/
theorem valid_vouched {opts : List RemoteOption}
    (run : valid p oracle ref keys opts = .ok (sigs, none)) :
    ∃ co, SecretOptions p keys opts co ∧ Vouched oracle ref co := by
  unfold valid at run
  unfold SecretOptions
  split at run
  · rename_i empty
    simp only [if_pos (List.length_eq_zero_iff.mp empty)]
    obtain ⟨roots, initialised, run⟩ := bind_eq_ok.mp run
    obtain ⟨answer, verified, run⟩ := bind_eq_ok.mp run
    cases answer with
    | error err => cases run
    | ok sps => exact ⟨_, ⟨roots, initialised, rfl⟩, vouched_of_verify verified⟩
  · rename_i some_key
    have keyed : keys ≠ [] := fun empty => some_key (by simp [empty])
    simp only [if_neg keyed]
    exact validKeys_vouched run (.inr keyed)

/-- What the outcome of an authority says about it: it is skipped only when verification cannot
be run for it, and it passes only when it vouches. -/
def OutcomeSound (p : WebhookPlatform) (oracle : SignatureOracle) (ref : Reference)
    (kc : Keychain) (authority : Authority) : AuthorityOutcome → Prop
  | .skipped => ¬Checkable authority
  | .failed _ => True
  | .passed _ => ∃ co, AuthorityOptions p kc authority co ∧ Vouched oracle ref co

/-- Both cases of the switch end soundly when the authority vouches. -/
theorem signaturesOutcome_sound (options : AuthorityOptions p kc authority co)
    (vouched : Vouched oracle ref co) (sps : List Signature) :
    OutcomeSound p oracle ref kc authority (signaturesOutcome ref sps) := by
  unfold signaturesOutcome
  split
  · exact ⟨co, options, vouched⟩
  · trivial

theorem checkKeyless_sound {keyless : KeylessRef} {url : Url} {outcome : AuthorityOutcome}
    (unkeyed : authority.publicKeys = []) (given : authority.keyless = some keyless)
    (named : keyless.url = some url)
    (run : checkKeyless p oracle ref authority keyless url (optionsOf kc authority) = .ok outcome) :
    OutcomeSound p oracle ref kc authority outcome := by
  unfold checkKeyless at run
  cases fetched : getFulcioCert p url with
  | error err =>
    rw [fetched] at run
    cases run
    trivial
  | ok roots =>
    cases connected : authorityRekorClient p authority with
    | error err =>
      simp only [fetched, connected] at run
      cases run
      trivial
    | ok rekorClient =>
      simp only [fetched, connected] at run
      obtain ⟨answer, verified, run⟩ := bind_eq_ok.mp run
      cases answer with
      | error err =>
        cases run
        trivial
      | ok sps =>
        cases run
        refine signaturesOutcome_sound ?_ (vouched_of_verify verified) sps
        rw [AuthorityOptions, if_pos unkeyed]
        exact ⟨keyless, url, roots, rekorClient, given, named, fetched, connected, rfl⟩

theorem checkAuthority_sound {outcome : AuthorityOutcome}
    (run : checkAuthority p oracle ref (optionsOf kc authority) authority = .ok outcome) :
    OutcomeSound p oracle ref kc authority outcome := by
  unfold checkAuthority at run
  split at run
  · rename_i some_key
    have keyed := List.ne_nil_of_length_pos some_key
    obtain ⟨⟨sps, err⟩, verified, run⟩ := bind_eq_ok.mp run
    cases err with
    | some err =>
      cases run
      trivial
    | none =>
      cases run
      obtain ⟨co, options, vouched⟩ := valid_vouched verified
      rw [SecretOptions, if_neg keyed] at options
      refine signaturesOutcome_sound ?_ vouched sps
      rwa [AuthorityOptions, if_neg keyed]
  · rename_i no_key
    have unkeyed : authority.publicKeys = [] :=
      List.eq_nil_of_length_eq_zero (Nat.eq_zero_of_not_pos no_key)
    cases given : authority.keyless with
    | none =>
      simp only [given] at run
      cases run
      simp [OutcomeSound, Checkable, unkeyed, fulcioOf, given]
    | some keyless =>
      cases named : keyless.url with
      | none =>
        simp only [given, named] at run
        cases run
        simp [OutcomeSound, Checkable, unkeyed, fulcioOf, given, named]
      | some url =>
        simp only [given, named] at run
        exact checkKeyless_sound unkeyed given named run

/-- A policy is validated without an error only because an authority vouches, once there is an
authority that verification can be run for or an error to report. -/
theorem validateAuthorities_vouched {authorityErrors : List GoError}
    {authorities : List Authority}
    (run : validateAuthorities p oracle ref [.authFromKeychain kc] authorityErrors authorities =
      .ok (sigs, []))
    (begun : authorityErrors ≠ [] ∨ ∃ authority ∈ authorities, Checkable authority) :
    ∃ authority ∈ authorities, ∃ co, AuthorityOptions p kc authority co ∧
      Vouched oracle ref co := by
  induction authorities generalizing authorityErrors with
  | nil =>
    cases run
    simp at begun
  | cons authority rest ih =>
    have later {errors : List GoError}
        (run : validateAuthorities p oracle ref [.authFromKeychain kc] errors rest =
          .ok (sigs, []))
        (begun : errors ≠ [] ∨ ∃ authority ∈ rest, Checkable authority) :
        ∃ found ∈ authority :: rest, ∃ co, AuthorityOptions p kc found co ∧
          Vouched oracle ref co := by
      obtain ⟨found, member, vouched⟩ := ih run begun
      exact ⟨found, List.mem_cons_of_mem _ member, vouched⟩
    unfold validateAuthorities at run
    obtain ⟨outcome, checked, run⟩ := bind_eq_ok.mp run
    have sound := checkAuthority_sound checked
    cases outcome with
    | skipped =>
      refine later run (begun.imp_right ?_)
      rintro ⟨found, member, checkable⟩
      cases List.mem_cons.mp member with
      | inl same =>
        subst same
        exact absurd checkable sound
      | inr member => exact ⟨found, member, checkable⟩
    | failed err => exact later run (.inl (by simp))
    | passed sps => exact ⟨authority, List.mem_cons_self, sound⟩

/-- `ValidatePolicy` returns without errors. -/
def PolicyPasses (p : WebhookPlatform) (oracle : SignatureOracle) (ref : Reference)
    (kc : Keychain) (authorities : List Authority) : Prop :=
  ∃ sigs, validatePolicy p oracle ref kc authorities = .ok (sigs, [])

theorem validatePoliciesStep_eq_ok {maps next : PolicyMaps}
    {entry : Sigma fun _ : String => List Authority}
    (run : validatePoliciesStep p oracle ref kc maps entry = .ok next) :
    (PolicyPasses p oracle ref kc entry.2 ∧
      ∃ sigs, next = (maps.1.appendAt entry.1 sigs, maps.2)) ∨
    (¬PolicyPasses p oracle ref kc entry.2 ∧ next = (maps.1, maps.2.appendAt entry.1 [])) := by
  unfold validatePoliciesStep at run
  obtain ⟨⟨sigs, errs⟩, validated, run⟩ := bind_eq_ok.mp run
  cases errs with
  | nil =>
    cases run
    exact .inl ⟨⟨sigs, validated⟩, sigs, rfl⟩
  | cons err errs =>
    cases run
    refine .inr ⟨?_, rfl⟩
    rintro ⟨sigs', passed⟩
    cases validated.symm.trans passed

/-- The keys of the two maps are the policies that pass and those that do not. -/
theorem validatePolicies_keys {entries : List (Sigma fun _ : String => List Authority)}
    {maps final : PolicyMaps}
    (run : entries.foldlM (validatePoliciesStep p oracle ref kc) maps = .ok final)
    (key : String) :
    (key ∈ final.1 ↔ key ∈ maps.1 ∨ ∃ authorities, ⟨key, authorities⟩ ∈ entries ∧
      PolicyPasses p oracle ref kc authorities) ∧
    (key ∈ final.2 ↔ key ∈ maps.2 ∨ ∃ authorities, ⟨key, authorities⟩ ∈ entries ∧
      ¬PolicyPasses p oracle ref kc authorities) := by
  induction entries generalizing maps with
  | nil =>
    cases run
    simp
  | cons entry rest ih =>
    obtain ⟨name, own⟩ := entry
    rw [List.foldlM_cons] at run
    obtain ⟨next, stepped, run⟩ := bind_eq_ok.mp run
    obtain ⟨passed, failed⟩ := ih run
    rw [passed, failed]
    obtain ⟨passes, sigs, rfl⟩ | ⟨fails, rfl⟩ := validatePoliciesStep_eq_ok stepped
    · simp only [GoMap.mem_appendAt, List.mem_cons, Sigma.mk.injEq, heq_eq_eq]
      grind
    · simp only [GoMap.mem_appendAt, List.mem_cons, Sigma.mk.injEq, heq_eq_eq]
      grind

theorem checkPolicies_eq_nil {policies : GoMap (List Authority)}
    (run : checkPolicies p oracle kc field i c ref policies = .ok []) {key : String}
    {authorities : List Authority} (named : policies.lookup key = some authorities) :
    PolicyPasses p oracle ref kc authorities := by
  unfold checkPolicies at run
  obtain ⟨⟨signatures, fieldErrors⟩, validated, run⟩ := bind_eq_ok.mp run
  have keys := validatePolicies_keys validated
  have member := AList.mem_lookup_iff.mp named
  apply Classical.byContradiction
  intro fails
  dsimp only at run
  split at run
  · have empty : fieldErrors.keys = [] := by simpa using run
    have recorded : key ∈ fieldErrors.keys :=
      (keys key).2.mpr (.inr ⟨authorities, member, fails⟩)
    rw [empty] at recorded
    exact List.not_mem_nil recorded
  · rename_i equal
    have among : ∀ other ∈ signatures, other ∈ policies := by
      intro other present
      obtain absent | ⟨own, listed, -⟩ := (keys other).1.mp present
      · exact absurd absent (AList.notMem_empty other)
      · exact GoMap.mem_of_lookup (GoMap.lookup_of_entry listed)
    have many : signatures.len = policies.len := Classical.not_not.mp equal
    have present : key ∈ signatures :=
      GoMap.mem_of_len_eq among many (GoMap.mem_of_lookup named)
    obtain absent | ⟨own, listed, passes⟩ := (keys key).1.mp present
    · exact AList.notMem_empty key absent
    · have same : policies.lookup key = some own := GoMap.lookup_of_entry listed
      cases named.symm.trans same
      exact fails passes

/-- Each policy that passed and has an authority that verification can be run for has one that
vouches. -/
theorem matching_vouched {config : ImagePolicyConfig} {name : String}
    (passed : ∀ key authorities,
      (getMatchingPolicies p (some config) name).1.lookup key = some authorities →
      PolicyPasses p oracle (.digest name) kc authorities)
    {key : String} {policy : ClusterImagePolicy}
    (named : config.policies.lookup key = some policy) (hit : PolicyMatches p name policy)
    (checkable : ∃ authority ∈ policy.authorities, Checkable authority) :
    ∃ authority ∈ policy.authorities, ∃ co, AuthorityOptions p kc authority co ∧
      Vouched oracle (.digest name) co := by
  have present : key ∈ (getMatchingPolicies p (some config) name).1 :=
    mem_getMatchingPolicies named hit
  obtain ⟨authorities, found⟩ := GoMap.exists_lookup present
  obtain ⟨policy', named', -, same⟩ := getMatchingPolicies_lookup_some found
  cases named.symm.trans named'
  obtain ⟨sigs, validated⟩ := passed key authorities found
  obtain ⟨authority, member, able⟩ := checkable
  have listed : authority ∈ authorities := (same authority).mpr member
  obtain ⟨vouching, listed, vouched⟩ :=
    validateAuthorities_vouched validated (.inr ⟨authority, listed, able⟩)
  exact ⟨vouching, (same vouching).mp listed, vouched⟩

/-- A digest reference that yields no error passes every policy in the result of the matching
and, when there is none, the secret vouches for it. -/
theorem checkDigest_eq_nil {config : ImagePolicyConfig} {name : String}
    (run : checkDigest p oracle (some ⟨some config⟩) kc keys field i c (.digest name) = .ok []) :
    (∀ key authorities,
      (getMatchingPolicies p (some config) name).1.lookup key = some authorities →
      PolicyPasses p oracle (.digest name) kc authorities) ∧
    ((∀ key, key ∉ (getMatchingPolicies p (some config) name).1) →
      ∃ co, SecretOptions p keys [.authFromKeychain kc] co ∧ Vouched oracle (.digest name) co) := by
  simp only [checkDigest, Reference.name] at run
  generalize getMatchingPolicies p (some config) name = matched at run ⊢
  obtain ⟨policies, err⟩ := matched
  cases err with
  | some err => simp at run
  | none =>
    dsimp only at run ⊢
    split at run
    · rename_i some_policy
      refine ⟨fun key authorities => checkPolicies_eq_nil run, fun none_present => ?_⟩
      exact absurd (GoMap.len_eq_zero.mpr none_present) (Nat.ne_of_gt some_policy)
    · rename_i no_policy
      have absent := GoMap.len_eq_zero.mp (Nat.eq_zero_of_not_pos no_policy)
      constructor
      · intro key authorities found
        exact absurd (GoMap.mem_of_lookup found) (absent key)
      · intro _
        unfold checkTraditional at run
        obtain ⟨⟨sigs, err⟩, verified, run⟩ := bind_eq_ok.mp run
        cases err with
        | some err => simp at run
        | none => exact valid_vouched verified

/-- A container that yields no error has a verified image, if every policy that matches it has
an authority that verification can be run for. -/
theorem checkContainer_verified {config : ImagePolicyConfig}
    (run : checkContainer p oracle (some ⟨some config⟩) kc keys field c i = .ok [])
    (checkable : PoliciesCheckable p config c.image) :
    ∃ name, ImageVerified p (Vouched oracle) config kc keys c.image name := by
  unfold checkContainer at run
  cases parsed : p.parseReference c.image with
  | error err => simp [parsed] at run
  | ok ref =>
    cases ref with
    | tag name => simp [parsed] at run
    | digest name =>
      rw [parsed] at run
      obtain ⟨passed, secret⟩ := checkDigest_eq_nil run
      refine ⟨name, parsed, ?_, ?_⟩
      · intro key policy named hit
        exact matching_vouched passed named hit (checkable name parsed key policy named hit)
      · intro unmatched
        refine secret fun key present => ?_
        obtain ⟨authorities, found⟩ := GoMap.exists_lookup present
        obtain ⟨policy, named, hit, -⟩ := getMatchingPolicies_lookup_some found
        exact unmatched key policy named hit

/-- The closure yields no error exactly when there was none before and no container yields
one. -/
theorem checkContainers_eq_nil {config : Option Config} {errs : FieldErrors} {cs : List Container} :
    checkContainers p oracle config kc keys errs cs field = .ok [] ↔
      errs = [] ∧ ∀ item ∈ cs.zipIdx,
        checkContainer p oracle config kc keys field item.1 item.2 = .ok [] :=
  foldlM_append_eq_nil

/-- An admitted pod has a keychain and keys, and none of its containers yields an error. -/
theorem validatePodSpec_eq_nil {config : Option Config}
    (admitted : validatePodSpec p oracle config secret ps opt = .ok []) :
    ∃ kc data keys, p.newKeychain opt = .ok kc ∧ secret = .ok data ∧
      getKeys p data = .ok keys ∧ ∀ c ∈ ps.initContainers ++ ps.containers,
        ∃ field i, checkContainer p oracle config kc keys field c i = .ok [] := by
  unfold validatePodSpec at admitted
  cases chained : p.newKeychain opt with
  | error err => simp [chained] at admitted
  | ok kc =>
    cases secret with
    | error err => simp [chained] at admitted
    | ok data =>
      cases loaded : getKeys p data with
      | error kerr => simp [chained, loaded] at admitted
      | ok keys =>
        simp only [chained, loaded] at admitted
        obtain ⟨errs, first, second⟩ := bind_eq_ok.mp admitted
        obtain ⟨rfl, containers⟩ := checkContainers_eq_nil.mp second
        obtain ⟨-, initContainers⟩ := checkContainers_eq_nil.mp first
        refine ⟨kc, data, keys, rfl, rfl, loaded, fun c member => ?_⟩
        rw [← List.zipIdx_map_fst 0 ps.initContainers, ← List.zipIdx_map_fst 0 ps.containers,
          ← List.map_append] at member
        obtain ⟨item, listed, rfl⟩ := List.mem_map.mp member
        cases List.mem_append.mp listed with
        | inl listed => exact ⟨_, _, initContainers item listed⟩
        | inr listed => exact ⟨_, _, containers item listed⟩

/-- An admitted pod may run, if every policy that matches one of its images can be checked. -/
theorem podVerified_of_admitted {config : ImagePolicyConfig}
    (admitted : validatePodSpec p oracle (some ⟨some config⟩) secret ps opt = .ok [])
    (checkable : ∀ c ∈ ps.initContainers ++ ps.containers, PoliciesCheckable p config c.image) :
    PodVerified p (Vouched oracle) config secret ps opt := by
  obtain ⟨kc, data, keys, chained, fetched, loaded, passed⟩ := validatePodSpec_eq_nil admitted
  refine ⟨kc, data, keys, chained, fetched, loaded, fun c member => ?_⟩
  obtain ⟨field, i, passed⟩ := passed c member
  exact checkContainer_verified passed (checkable c member)

/-- **Admission lets run what may run, exactly when every policy that matches can be checked.** For
every configuration, secret, pod and oracle: an admitted pod has only images that may run if and
only if each policy that matches one of them has an authority with a public key or with the address
of a Fulcio. A policy without one is validated by nothing and counts as passed. -/
theorem admission_sound_iff {config : ImagePolicyConfig} {secret : Except GoError (GoMap Bytes)}
    {ps : PodSpec} {opt : KeychainOptions}
    (admitted : validatePodSpec p oracle (some ⟨some config⟩) secret ps opt = .ok []) :
    PodVerified p (Vouched oracle) config secret ps opt ↔
      ∀ c ∈ ps.initContainers ++ ps.containers, PoliciesCheckable p config c.image := by
  constructor
  · rintro ⟨kc, data, keys, -, -, -, verified⟩ c member
    obtain ⟨name, verified⟩ := verified c member
    exact verified.checkable
  · exact podVerified_of_admitted admitted

/-- A webhook platform for evaluation, on which a reference with an at sign is a digest. -/
def sampleWebhook : WebhookPlatform where
  toPlatform := samplePlatform
  quote text := "\"" ++ text ++ "\""
  yamlToJSON := .ok
  parseURL text := .ok ⟨text⟩
  newRepository text := .ok ⟨text, false, text⟩
  parseReference text := .ok (if (runes text).contains '@' then .digest text else .tag text)
  newKeychain _ := .ok ⟨"default"⟩
  rootCert _ := .ok sampleCert.raw
  certsInPEM _ := [sampleCert]
  getRekorClient _ := .error ⟨"no such host"⟩
  fulcioRoots := .ok CertPool.empty

/-- A pod with one container. -/
def samplePod : PodSpec := ⟨[], [⟨"registry.local/app@sha256:00"⟩], "default", []⟩

/-- Where that pod runs. -/
def sampleOptions : KeychainOptions := ⟨"default", "default", []⟩

/-- A policy for every image with one keyless authority. -/
def samplePolicy (url : Option Url) : ImagePolicyConfig :=
  ⟨AList.singleton "keyless" ⟨[⟨"*", ""⟩],
    [⟨none, some ⟨url, [⟨"https://accounts.google.com", ""⟩], none⟩, [], none, []⟩]⟩⟩

/-- The entry of a configuration map whose policy is that one without an address of Fulcio. -/
def sampleEntry : String :=
  "\x7b\"images\":[\x7b\"glob\":\"*\"\x7d],\"authorities\":[\x7b\"keyless\":\x7b" ++
    "\"identities\":[\x7b\"issuer\":\"https://accounts.google.com\"\x7d]\x7d\x7d]\x7d"

/-- An oracle that finds the same signature for every image. -/
def acceptingOracle : SignatureOracle where
  verify _ _ := .ok (.ok [sampleLayer "AQ==" none none])
  nonempty _ _ _ verified := by
    cases verified
    exact List.cons_ne_nil _ _

/-- An oracle that finds no signature for any image. -/
def denyingOracle : SignatureOracle where
  verify _ _ := .ok (.error ⟨"no matching signatures"⟩)
  nonempty _ _ _ verified := by cases verified

/-- That policy with the address of a Fulcio. -/
def fulcioPolicy : ImagePolicyConfig := samplePolicy (some ⟨"fulcio.local"⟩)

/-- Where the authority names a Fulcio, the admitted pod may run. -/
theorem admission_sound_iff_fulcio :
    validatePodSpec sampleWebhook acceptingOracle (some ⟨some fulcioPolicy⟩) (.ok ∅) samplePod
      sampleOptions = .ok [] ∧
    PodVerified sampleWebhook (Vouched acceptingOracle) fulcioPolicy (.ok ∅) samplePod
      sampleOptions := by
  have admitted : validatePodSpec sampleWebhook acceptingOracle (some ⟨some fulcioPolicy⟩)
      (.ok ∅) samplePod sampleOptions = .ok [] := by
    decide +kernel
  refine ⟨admitted, (admission_sound_iff admitted).mpr ?_⟩
  intro c _ name _ key policy named _
  have listed : ⟨key, policy⟩ ∈ fulcioPolicy.policies.entries := AList.mem_lookup_iff.mp named
  cases List.mem_singleton.mp listed
  exact ⟨_, List.mem_singleton_self _, by decide⟩

/-- **A pod is admitted although nothing verified its image.** The entry of the configuration has a
keyless authority with an identity and no URL; the policy matches every image, its authority is
skipped, and the oracle finds no signature at all. -/
theorem unchecked_policy_admits :
    newImagePoliciesConfigFromMap sampleWebhook (AList.singleton "keyless" sampleEntry) =
      .ok (samplePolicy none) ∧
    validatePodSpec sampleWebhook denyingOracle (some ⟨some (samplePolicy none)⟩) (.ok ∅)
      samplePod sampleOptions = .ok [] ∧
    ¬PodVerified sampleWebhook (Vouched denyingOracle) (samplePolicy none) (.ok ∅) samplePod
      sampleOptions := by
  refine ⟨by decide +kernel, by decide +kernel, ?_⟩
  rintro ⟨kc, data, keys, -, -, -, verified⟩
  obtain ⟨name, verified⟩ := verified _ (List.mem_singleton_self _)
  have parsed : sampleWebhook.parseReference "registry.local/app@sha256:00" =
      .ok (.digest "registry.local/app@sha256:00") := by
    decide +kernel
  cases parsed.symm.trans verified.digest
  obtain ⟨authority, member, co, options, -⟩ := verified.policies "keyless" _ rfl
    ⟨_, List.mem_singleton_self _, by decide +kernel⟩
  cases List.mem_singleton.mp member
  exact absurd options.checkable (by decide)

/-- A signature of the image that verified under the options and that the registry stores with
the image. -/
def SignedInRegistry (p : Platform) (registry : Registry) (ref : Reference) (co : CheckOpts) :
    Prop :=
  ∃ se h sl sig, getSignedEntity registry ref.name co.registryClientOpts = .ok (se, h) ∧
    se.signatures = .ok (.ok sl) ∧ sig ∈ sl ∧ SignatureVerified p h co sig

/-- `VerifyImageSignatures` without an error returns signatures, and they verified. -/
theorem verifyImageSignatures_signed {p : Platform} {co after : CheckOpts} {flag : Bool}
    (run : verifyImageSignatures p registry ref.name co = .ok (after, sigs, flag, none)) :
    sigs ≠ [] ∧ SignedInRegistry p registry ref co := by
  unfold verifyImageSignatures at run
  split at run
  · cases run
  · cases found : getSignedEntity registry ref.name co.registryClientOpts with
    | error err => simp [found, Outcome.failed] at run
    | ok entity =>
      obtain ⟨se, h⟩ := entity
      cases listed : se.signatures with
      | error err => simp [found, listed, Outcome.failed] at run
      | ok signatures =>
        simp only [found, listed] at run
        cases signatures with
        | error err => simp [verifySignatures] at run
        | ok sl =>
          obtain ⟨kept, some_kept⟩ := verifySignatures_list run
          have nonempty := some_kept.mp rfl
          obtain ⟨sig, member⟩ := List.exists_mem_of_ne_nil sigs nonempty
          rw [kept, List.mem_filter] at member
          exact ⟨nonempty, se, h, sl, sig, found, listed, member.1,
            acceptedAlone_verified member.2⟩

/-- The package variable as the source sets it: `VerifyImageSignatures`. -/
def registryOracle (p : Platform) (registry : Registry) : SignatureOracle where
  verify ref co := do
    let (_, sigs, _, err) ← verifyImageSignatures p registry ref.name co
    match err with
    | some err => .ok (.error err)
    | none => .ok (.ok sigs)
  nonempty ref co sigs verified := by
    obtain ⟨⟨after, list, flag, err⟩, run, verified⟩ := bind_eq_ok.mp verified
    cases err with
    | some err => cases verified
    | none =>
      cases verified
      exact (verifyImageSignatures_signed run).1

theorem Vouched.signedInRegistry {p : Platform}
    (vouched : Vouched (registryOracle p registry) ref co) :
    SignedInRegistry p registry ref co := by
  obtain ⟨sigs, verified, -⟩ := vouched
  obtain ⟨⟨after, list, flag, err⟩, run, verified⟩ := bind_eq_ok.mp verified
  cases err with
  | some err => cases verified
  | none => exact (verifyImageSignatures_signed run).2

/-- **An admitted pod is signed in the registry.** With the verification of image signatures as the
oracle, and policies that can be checked, every image of an admitted pod is named by digest, and for
every policy that matches it the registry stores a signature that verified under the options of an
authority; without such a policy, under those of the secret. -/
theorem admitted_signed {config : ImagePolicyConfig}
    (admitted : validatePodSpec p (registryOracle p.toPlatform registry) (some ⟨some config⟩)
      secret ps opt = .ok [])
    (checkable : ∀ c ∈ ps.initContainers ++ ps.containers, PoliciesCheckable p config c.image) :
    PodVerified p (SignedInRegistry p.toPlatform registry) config secret ps opt :=
  (podVerified_of_admitted admitted checkable).mono fun _ _ => Vouched.signedInRegistry

/-- A workload that is not being deleted is admitted exactly when its pod is. -/
theorem validateWorkload_eq_nil {path : String} {config : Option Config} {object : Workload}
    (alive : object.deleting = false) :
    validateWorkload p oracle path config secret object = .ok [] ↔
      validatePodSpec p oracle config secret object.spec
        ⟨object.namespaceName, object.spec.serviceAccountName, object.spec.imagePullSecrets⟩ =
          .ok [] := by
  unfold validateWorkload
  rw [alive, if_neg Bool.false_ne_true, bind_eq_ok]
  constructor
  · rintro ⟨errs, validated, moved⟩
    have silent : errs = [] := List.map_eq_nil_iff.mp (Except.ok.inj moved)
    rw [validated, silent]
  · intro validated
    exact ⟨[], validated, rfl⟩

/-- **An admitted workload is signed in the registry**, through whichever of the handlers it
came, unless it is being deleted. -/
theorem admitted_workload_signed {path : String}
    {config : ImagePolicyConfig} {object : Workload}
    (alive : object.deleting = false)
    (admitted : validateWorkload p (registryOracle p.toPlatform registry) path
      (some ⟨some config⟩) secret object = .ok [])
    (checkable : ∀ c ∈ object.spec.initContainers ++ object.spec.containers,
      PoliciesCheckable p config c.image) :
    PodVerified p (SignedInRegistry p.toPlatform registry) config secret object.spec
      ⟨object.namespaceName, object.spec.serviceAccountName, object.spec.imagePullSecrets⟩ :=
  admitted_signed ((validateWorkload_eq_nil alive).mp admitted) checkable

end Cosign.Verif
