import Cosign.Verif.PolicyTransport

/-!
# Matching with patterns that passed validation

A pattern that passed `ImagePattern.Validate` is a glob whose only star is its last character, or a
regular expression that compiles, so matching it decides what it is documented to select
(`matchPattern_selects`). `GetMatchingPolicies` returns exactly the policies of which a pattern
selects the image, each with its authorities exactly when no second pattern does, too
(`matching_exact_iff`).
-/
namespace Cosign.Verif

open Cosign.Go Cosign.Encoding Cosign.Oci Cosign.Verify Cosign.Webhook Cosign.Spec Cosign.V1alpha1

variable {p : WebhookPlatform} {image : String} {pattern : ImagePattern}
  {config : ImagePolicyConfig}

/-- An image that a glob selects: its own text or, when it ends in a star, every text that starts
with what stands before the star. -/
def GlobSelects (glob image : String) : Prop :=
  ('*' ∉ runes glob ∧ image = glob) ∨ ∃ start, runes glob = start ++ ['*'] ∧ start <+: runes image

/-- An image that a pattern selects, by its glob or by its regular expression. -/
def Selects (p : WebhookPlatform) (image : String) (pattern : ImagePattern) : Prop :=
  (pattern.glob ≠ "" ∧ GlobSelects pattern.glob image) ∨
    (pattern.regex ≠ "" ∧
      ∃ matchString, p.compileRegexp pattern.regex = .ok matchString ∧ matchString image = true)

/-- The patterns of every policy passed validation. -/
def PatternsValid (p : WebhookPlatform) (config : ImagePolicyConfig) : Prop :=
  ∀ key policy, config.policies.lookup key = some policy →
    ∀ pattern ∈ policy.images, validateImage p pattern = []

/-- A glob passes validation when its only star, if any, is its last character. -/
theorem validateGlob_eq_nil {glob : String} (accepted : validateGlob glob = []) :
    '*' ∉ runes glob ∨ ∃ start, runes glob = start ++ ['*'] := by
  unfold validateGlob at accepted
  by_cases star : '*' ∈ runes glob
  · right
    dsimp only at accepted
    split at accepted
    · rename_i none_counted
      exact absurd star (List.count_eq_zero.mp none_counted)
    · have last : (runes glob).getLast? = some '*' := by
        rw [errorIf_eq_nil] at accepted
        simpa using accepted
      exact ⟨_, (List.dropLast_append_getLast? _ last).symm⟩
    · cases accepted
  · exact .inl star

theorem globMatch_iff {glob : String} (accepted : validateGlob glob = []) :
    globMatch image glob = true ↔ GlobSelects glob image := by
  unfold globMatch GlobSelects
  dsimp only
  obtain plain | ⟨start, split⟩ := validateGlob_eq_nil accepted
  · have last : ((runes glob).getLast? == some '*') = false := by
      rw [beq_eq_false_iff_ne]
      intro found
      exact plain (List.mem_of_getLast? found)
    rw [last, if_neg Bool.false_ne_true, beq_iff_eq]
    constructor
    · exact fun same => .inl ⟨plain, same⟩
    · rintro (⟨-, same⟩ | ⟨start, split, -⟩)
      · exact same
      · rw [split] at plain
        simp at plain
  · rw [split]
    simp only [List.getLast?_append, List.getLast?_singleton, Option.some_or, beq_self_eq_true,
      if_true, List.dropLast_concat, List.isPrefixOf_iff_prefix, List.append_cancel_right_eq,
      List.mem_append, List.mem_singleton, or_true, not_true_eq_false, false_and, false_or]
    constructor
    · exact fun starts => ⟨start, rfl, starts⟩
    · rintro ⟨other, same, starts⟩
      rwa [same]

/-- A pattern that passed validation is matched without an error, and the answer says what it
selects. -/
theorem matchPattern_selects (image : String) (accepted : validateImage p pattern = []) :
    ∃ hit, matchPattern p image pattern = .ok hit ∧ (hit = true ↔ Selects p image pattern) := by
  simp only [validateImage, List.append_eq_nil_iff, errorIf_eq_nil, Bool.and_eq_false_iff,
    bne_eq_false_iff_eq, beq_eq_false_iff_ne] at accepted
  obtain ⟨⟨⟨one, some_given⟩, glob⟩, regex⟩ := accepted
  unfold matchPattern Selects
  by_cases given : pattern.glob = ""
  · have named : pattern.regex ≠ "" := some_given.resolve_right fun absent => absent given
    rw [if_pos named] at regex
    rw [if_neg fun other => other given, if_pos named]
    unfold validateRegex at regex
    cases compiled : p.compileRegexp pattern.regex with
    | error err => simp [compiled, FieldErrors.viaField] at regex
    | ok matchString =>
      refine ⟨matchString image, rfl, ?_⟩
      simp [given, named]
  · have absent : pattern.regex = "" := one.resolve_right given
    rw [if_pos given] at glob ⊢
    have valid : validateGlob pattern.glob = [] := List.map_eq_nil_iff.mp glob
    refine ⟨globMatch image pattern.glob, rfl, ?_⟩
    rw [globMatch_iff valid]
    simp [given, absent]

theorem patternHits_iff (accepted : validateImage p pattern = []) :
    patternHits p image pattern = true ↔ Selects p image pattern := by
  obtain ⟨hit, matched, decides⟩ := matchPattern_selects image accepted
  unfold patternHits
  rw [matched]
  exact decides

theorem matchStep_lastError {k : String} {v : ClusterImagePolicy} {state : Matching} {hit : Bool}
    (matched : matchPattern p image pattern = .ok hit) :
    (matchStep p image k v state pattern).lastError = state.lastError := by
  unfold matchStep
  rw [matched]
  cases hit <;> rfl

theorem matchSteps_lastError {k : String} {v : ClusterImagePolicy} {patterns : List ImagePattern}
    (accepted : ∀ pattern ∈ patterns, validateImage p pattern = []) (state : Matching) :
    (patterns.foldl (matchStep p image k v) state).lastError = state.lastError := by
  induction patterns generalizing state with
  | nil => rfl
  | cons pattern rest ih =>
    obtain ⟨first, others⟩ := List.forall_mem_cons.mp accepted
    obtain ⟨hit, matched, -⟩ := matchPattern_selects image first
    rw [List.foldl_cons, ih others, matchStep_lastError matched]

theorem matchPolicies_lastError {entries : List (Sigma fun _ : String => ClusterImagePolicy)}
    (accepted : ∀ entry ∈ entries, ∀ pattern ∈ entry.2.images, validateImage p pattern = [])
    (state : Matching) : (matchPolicies p image state entries).lastError = state.lastError := by
  induction entries generalizing state with
  | nil => rfl
  | cons entry rest ih =>
    obtain ⟨first, others⟩ := List.forall_mem_cons.mp accepted
    exact (ih others _).trans (matchSteps_lastError first state)

theorem getMatchingPolicies_error (valid : PatternsValid p config)
    (image : String) : (getMatchingPolicies p (some config) image).2 = none :=
  matchPolicies_lastError
    (fun entry listed => valid entry.1 entry.2 (GoMap.lookup_of_entry listed)) ⟨∅, none⟩

/-- Copies of a list make up the list exactly when there is one of them, or nothing in it. -/
theorem flatten_replicate_eq {α : Type} {list : List α} {copies : Nat} (some_copies : copies ≠ 0) :
    (List.replicate copies list).flatten = list ↔ copies ≤ 1 ∨ list = [] := by
  constructor
  · intro same
    have lengths : copies * list.length = list.length := by
      have flat := congrArg List.length same
      simpa using flat
    by_cases empty : list = []
    · exact .inr empty
    · have positive : 0 < list.length := List.length_pos_iff.mpr empty
      have single : copies = 1 := Nat.eq_of_mul_eq_mul_right positive (by omega)
      exact .inl (by omega)
  · rintro (single | empty)
    · have one : copies = 1 := by omega
      simp [one]
    · simp [empty]

/-- What `GetMatchingPolicies` is documented to return. -/
structure MatchesExactly (p : WebhookPlatform) (config : ImagePolicyConfig) (image : String) :
    Prop where
  /-- There is no error. -/
  noError : (getMatchingPolicies p (some config) image).2 = none
  /-- The keys are the policies of which some pattern selects the image. -/
  keys : ∀ key, key ∈ (getMatchingPolicies p (some config) image).1 ↔
    ∃ policy, config.policies.lookup key = some policy ∧
      ∃ pattern ∈ policy.images, Selects p image pattern
  /-- The value of a key is the list of its policy's authorities. -/
  values : ∀ key policy authorities, config.policies.lookup key = some policy →
    (getMatchingPolicies p (some config) image).1.lookup key = some authorities →
    authorities = policy.authorities

theorem mem_getMatchingPolicies_iff (valid : PatternsValid p config) (image key : String) :
    key ∈ (getMatchingPolicies p (some config) image).1 ↔
      ∃ policy, config.policies.lookup key = some policy ∧
        ∃ pattern ∈ policy.images, Selects p image pattern := by
  constructor
  · intro present
    obtain ⟨authorities, found⟩ := GoMap.exists_lookup present
    obtain ⟨policy, named, ⟨pattern, listed, hits⟩, -⟩ := getMatchingPolicies_lookup_some found
    have selects := (patternHits_iff (valid key policy named pattern listed)).mp hits
    exact ⟨policy, named, pattern, listed, selects⟩
  · rintro ⟨policy, named, pattern, listed, selects⟩
    have hits := (patternHits_iff (valid key policy named pattern listed)).mpr selects
    exact mem_getMatchingPolicies named ⟨pattern, listed, hits⟩

/-- The list under a key is that of the policy exactly when it was appended once. -/
theorem lookup_eq_authorities {key : String} {policy : ClusterImagePolicy}
    (named : config.policies.lookup key = some policy) :
    (∀ authorities, (getMatchingPolicies p (some config) image).1.lookup key = some authorities →
        authorities = policy.authorities) ↔
      policy.images.countP (patternHits p image) ≤ 1 ∨ policy.authorities = [] := by
  rw [lookup_getMatchingPolicies, named, Option.bind_some]
  unfold copiesOver
  by_cases none_counted : policy.images.countP (patternHits p image) = 0
  · rw [if_pos none_counted]
    simp [none_counted]
  · rw [if_neg none_counted, ← flatten_replicate_eq none_counted]
    simp

/-- **Matching is exact except for patterns that overlap.** For patterns that passed validation
there is no error and the keys are the policies that match, in every order of iteration; the lists
are those of the policies exactly when of no policy that has authorities two patterns match. -/
theorem matching_exact_iff {config : ImagePolicyConfig} (valid : PatternsValid p config)
    (image : String) :
    (getMatchingPolicies p (some config) image).2 = none ∧
    (∀ key, key ∈ (getMatchingPolicies p (some config) image).1 ↔
      ∃ policy, config.policies.lookup key = some policy ∧
        ∃ pattern ∈ policy.images, Selects p image pattern) ∧
    (MatchesExactly p config image ↔
      ∀ key policy, config.policies.lookup key = some policy →
        policy.images.countP (patternHits p image) ≤ 1 ∨ policy.authorities = []) := by
  have noError := getMatchingPolicies_error valid image
  have keys := mem_getMatchingPolicies_iff valid image
  refine ⟨noError, keys, fun exactly key policy named => ?_, fun single => ⟨noError, keys, ?_⟩⟩
  · exact (lookup_eq_authorities named).mp fun authorities =>
      exactly.values key policy authorities named
  · intro key policy authorities named
    exact (lookup_eq_authorities named).mpr (single key policy named) authorities

/-- A policy with one authority and some globs. -/
def globPolicy (globs : List String) : ImagePolicyConfig :=
  ⟨AList.singleton "app" ⟨globs.map fun glob => ⟨glob, ""⟩, [⟨none, none, [], none, []⟩]⟩⟩

theorem globPolicy_valid {globs : List String}
    (accepted : ∀ glob ∈ globs, validateImage p ⟨glob, ""⟩ = []) :
    PatternsValid p (globPolicy globs) := by
  intro key policy named pattern listed
  cases List.mem_singleton.mp (AList.mem_lookup_iff.mp named)
  obtain ⟨glob, member, same⟩ := List.mem_map.mp listed
  rw [← same]
  exact accepted glob member

/-- With one pattern for the image, its authorities are returned once. -/
theorem matching_exact_iff_single :
    PatternsValid sampleWebhook (globPolicy ["registry.local/*", "quay.io/*"]) ∧
    MatchesExactly sampleWebhook (globPolicy ["registry.local/*", "quay.io/*"])
      "registry.local/app" := by
  have valid : PatternsValid sampleWebhook (globPolicy ["registry.local/*", "quay.io/*"]) :=
    globPolicy_valid (by decide +kernel)
  refine ⟨valid, (matching_exact_iff valid _).2.2.mpr fun key policy named => ?_⟩
  cases List.mem_singleton.mp (AList.mem_lookup_iff.mp named)
  exact .inl (by decide +kernel)

/-- **Patterns that overlap repeat the authorities of a policy.** Both globs are valid and select
the image, and the one authority of the policy is returned twice. -/
theorem overlapping_patterns_repeat :
    PatternsValid sampleWebhook (globPolicy ["registry.local/*", "*"]) ∧
    ((getMatchingPolicies sampleWebhook (some (globPolicy ["registry.local/*", "*"]))
      "registry.local/app").1.lookup "app").map List.length = some 2 ∧
    ¬MatchesExactly sampleWebhook (globPolicy ["registry.local/*", "*"]) "registry.local/app" := by
  have twice : ((getMatchingPolicies sampleWebhook (some (globPolicy ["registry.local/*", "*"]))
      "registry.local/app").1.lookup "app").map List.length = some 2 := by
    decide +kernel
  refine ⟨globPolicy_valid (by decide +kernel), twice, fun exactly => ?_⟩
  obtain ⟨authorities, found, many⟩ := Option.map_eq_some_iff.mp twice
  rw [exactly.values "app" _ authorities rfl found] at many
  cases many

end Cosign.Verif
