import Cosign.Verif.Admission

/-!
# The two maps of `validatePolicies`

`validatePolicies` is documented to return, for each policy that matched, the signatures that were
verified for it or the errors that made it fail. What the maps hold for a policy is decided by the
result of `ValidatePolicy` on it alone (`validatePolicies_lookup`). They are not what is documented:
the errors that are recorded come from a slice that is never written, and a policy all of whose
authorities are skipped counts as validated (`validatePolicies_documented_iff`).
-/
namespace Cosign.Verif

open Cosign.Go Cosign.Encoding Cosign.Oci Cosign.Verify Cosign.Webhook Cosign.Spec

variable {p : WebhookPlatform} {oracle : SignatureOracle} {ref : Reference} {kc : Keychain}
  {sigs : List Signature} {authorities : List Authority} {key : String}

/-! ## One policy -/

/-- A signature was verified for one of the authorities of a policy. -/
def PolicyVerified (p : WebhookPlatform) (oracle : SignatureOracle) (ref : Reference)
    (kc : Keychain) (authorities : List Authority) : Prop :=
  ∃ authority ∈ authorities, ∃ sigs,
    checkAuthority p oracle ref (optionsOf kc authority) authority = .ok (.passed sigs)

/-- The end of both cases passes signatures on only if there are some. -/
theorem signaturesOutcome_passed {sps sigs : List Signature}
    (passed : signaturesOutcome ref sps = .passed sigs) : sigs ≠ [] := by
  unfold signaturesOutcome at passed
  split at passed
  · rename_i some_signature
    cases passed
    exact List.ne_nil_of_length_pos some_signature
  · cases passed

/-- The case of a keyless authority passes signatures on only if there are some. -/
theorem checkKeyless_passed {authority : Authority} {keyless : KeylessRef} {url : Url}
    {opts : List RemoteOption}
    (run : checkKeyless p oracle ref authority keyless url opts = .ok (.passed sigs)) :
    sigs ≠ [] := by
  unfold checkKeyless at run
  split at run
  · cases run
  · split at run
    · cases run
    · obtain ⟨answer, verified, run⟩ := bind_eq_ok.mp run
      cases answer with
      | error err => cases run
      | ok sps => exact signaturesOutcome_passed (Except.ok.inj run)

theorem checkAuthority_passed {authority : Authority} {opts : List RemoteOption}
    (run : checkAuthority p oracle ref opts authority = .ok (.passed sigs)) : sigs ≠ [] := by
  unfold checkAuthority at run
  split at run
  · obtain ⟨⟨sps, err⟩, verified, run⟩ := bind_eq_ok.mp run
    cases err with
    | some err => cases run
    | none => exact signaturesOutcome_passed (Except.ok.inj run)
  · split at run
    · cases run
    · split at run
      · cases run
      · exact checkKeyless_passed run

/-- `ValidatePolicy` returns signatures exactly when it verified some for an authority, and then it
returns no errors. -/
theorem validateAuthorities_verified {authorityErrors errs : List GoError}
    (run : validateAuthorities p oracle ref [.authFromKeychain kc] authorityErrors authorities =
      .ok (sigs, errs)) :
    (sigs ≠ [] ↔ PolicyVerified p oracle ref kc authorities) ∧ (sigs ≠ [] → errs = []) := by
  induction authorities generalizing authorityErrors with
  | nil =>
    cases run
    simp [PolicyVerified]
  | cons authority rest ih =>
    unfold validateAuthorities at run
    obtain ⟨outcome, checked, run⟩ := bind_eq_ok.mp run
    have own : PolicyVerified p oracle ref kc (authority :: rest) ↔
        (∃ sigs, outcome = .passed sigs) ∨ PolicyVerified p oracle ref kc rest := by
      have here : (∃ sigs, checkAuthority p oracle ref (optionsOf kc authority) authority =
          .ok (.passed sigs)) ↔ ∃ sigs, outcome = .passed sigs := by
        rw [show checkAuthority p oracle ref (optionsOf kc authority) authority = .ok outcome
          from checked]
        simp
      unfold PolicyVerified
      simp only [List.mem_cons, exists_eq_or_imp, here]
    rw [own]
    cases outcome with
    | skipped => simpa using ih run
    | failed err => simpa using ih run
    | passed sps =>
      cases run
      have found := checkAuthority_passed checked
      exact ⟨iff_of_true found (.inl ⟨sigs, rfl⟩), fun _ => rfl⟩

/-! ## All policies -/

/-- What the two maps hold under a key. -/
def lookupBoth (maps : PolicyMaps) (key : String) :
    Option (List Signature) × Option (List GoError) :=
  (maps.1.lookup key, maps.2.lookup key)

/-- What is recorded for a policy with a result of `ValidatePolicy`: without errors the signatures,
and with errors no errors. -/
def recorded (result : List Signature × List GoError) :
    Option (List Signature) × Option (List GoError) :=
  if result.2 = [] then (some result.1, none) else (none, some [])

/-- One policy is recorded under its key, if there was nothing under it, and nothing else
changes. -/
theorem validatePoliciesStep_lookup {maps next : PolicyMaps}
    {entry : Sigma fun _ : String => List Authority}
    (run : validatePoliciesStep p oracle ref kc maps entry = .ok next) :
    (lookupBoth maps entry.1 = (none, none) → ∃ result,
      validatePolicy p oracle ref kc entry.2 = .ok result ∧
        lookupBoth next entry.1 = recorded result) ∧
    ∀ key, key ≠ entry.1 → lookupBoth next key = lookupBoth maps key := by
  unfold validatePoliciesStep at run
  obtain ⟨⟨sigs, errs⟩, validated, run⟩ := bind_eq_ok.mp run
  -- Without errors the first map grows, with errors the second.
  have grown : next = (maps.1.appendAt entry.1 sigs, maps.2) ∧ errs = [] ∨
      next = (maps.1, maps.2.appendAt entry.1 []) ∧ errs ≠ [] := by
    cases errs with
    | nil => exact .inl ⟨(Except.ok.inj run).symm, rfl⟩
    | cons err errs => exact .inr ⟨(Except.ok.inj run).symm, List.cons_ne_nil _ _⟩
  constructor
  · intro absent
    have nothing : maps.1.lookup entry.1 = none := congrArg Prod.fst absent
    have unset : maps.2.lookup entry.1 = none := congrArg Prod.snd absent
    refine ⟨(sigs, errs), validated, ?_⟩
    cases grown with
    | inl signed => simp [lookupBoth, recorded, signed, GoMap.lookup_appendAt, nothing, unset]
    | inr failed => simp [lookupBoth, recorded, failed, GoMap.lookup_appendAt, nothing, unset]
  · intro key different
    cases grown with
    | inl signed => simp [lookupBoth, signed, GoMap.lookup_appendAt, different]
    | inr failed => simp [lookupBoth, failed, GoMap.lookup_appendAt, different]

/-- The loop records each of its policies by its own result, and nothing else. -/
theorem foldlM_lookup {entries : List (Sigma fun _ : String => List Authority)}
    {maps final : PolicyMaps} (distinct : (entries.map Sigma.fst).Nodup)
    (run : entries.foldlM (validatePoliciesStep p oracle ref kc) maps = .ok final) :
    (∀ key, key ∉ entries.map Sigma.fst → lookupBoth final key = lookupBoth maps key) ∧
    ∀ entry ∈ entries, lookupBoth maps entry.1 = (none, none) → ∃ result,
      validatePolicy p oracle ref kc entry.2 = .ok result ∧
        lookupBoth final entry.1 = recorded result := by
  induction entries generalizing maps with
  | nil =>
    cases run
    simp
  | cons first rest ih =>
    rw [List.foldlM_cons] at run
    obtain ⟨next, stepped, run⟩ := bind_eq_ok.mp run
    rw [List.map_cons, List.nodup_cons] at distinct
    obtain ⟨own, others⟩ := validatePoliciesStep_lookup stepped
    obtain ⟨kept, later⟩ := ih distinct.2 run
    constructor
    · intro key absent
      rw [List.map_cons, List.mem_cons, not_or] at absent
      rw [kept key absent.2, others key absent.1]
    · intro entry inside unset
      cases List.mem_cons.mp inside with
      | inl same =>
        rw [same] at unset ⊢
        rw [kept first.1 distinct.1]
        exact own unset
      | inr inside =>
        have different : entry.1 ≠ first.1 := by
          intro same
          rw [← same] at distinct
          exact distinct.1 (List.mem_map_of_mem inside)
        apply later entry inside
        rw [others entry.1 different, unset]

/-- **What the maps hold for a policy** is decided by the result of `ValidatePolicy` on it; for
another key they hold nothing. -/
theorem validatePolicies_lookup {policies : GoMap (List Authority)} {maps : PolicyMaps}
    (run : validatePolicies p oracle ref kc policies = .ok maps) (key : String) :
    (∀ authorities, policies.lookup key = some authorities → ∃ result,
      validatePolicy p oracle ref kc authorities = .ok result ∧
        lookupBoth maps key = recorded result) ∧
    (policies.lookup key = none → lookupBoth maps key = (none, none)) := by
  have distinct : (policies.entries.map Sigma.fst).Nodup := AList.keys_nodup policies
  obtain ⟨kept, own⟩ := foldlM_lookup distinct run
  constructor
  · intro authorities named
    exact own ⟨key, authorities⟩ (AList.mem_lookup_iff.mp named) rfl
  · intro absent
    apply kept key
    exact AList.lookup_eq_none.mp absent

theorem returns_validatePoliciesStep (maps : PolicyMaps)
    (entry : Sigma fun _ : String => List Authority) :
    Returns (validatePoliciesStep p oracle ref kc maps entry) ↔
      Returns (validatePolicy p oracle ref kc entry.2) := by
  unfold validatePoliciesStep
  rw [returns_bind]
  constructor
  · rintro ⟨result, validated, -⟩
    exact ⟨result, validated⟩
  · rintro ⟨result, validated⟩
    refine ⟨result, validated, ?_⟩
    by_cases failed : 0 < result.2.length
    · simp [failed]
    · simp [failed]

/-- The maps that the documentation describes: a policy is in the first exactly when a signature
was verified for one of its authorities, and the second has the errors that `ValidatePolicy`
returned. -/
structure Documented (p : WebhookPlatform) (oracle : SignatureOracle) (ref : Reference)
    (kc : Keychain) (policies : GoMap (List Authority)) (maps : PolicyMaps) : Prop where
  /-- A policy is in the first map exactly when a signature was verified. -/
  signatures : ∀ key authorities, policies.lookup key = some authorities →
    (key ∈ maps.1 ↔ PolicyVerified p oracle ref kc authorities)
  /-- A policy in the second map has its own errors. -/
  errors : ∀ key authorities, policies.lookup key = some authorities → key ∈ maps.2 →
    ∃ sigs errs, validatePolicy p oracle ref kc authorities = .ok (sigs, errs) ∧
      maps.2.lookup key = some errs

/-- A key is in the first map when it has signatures there, and in the second when it has
errors. -/
theorem mem_of_recorded {maps : PolicyMaps} {result : List Signature × List GoError}
    (both : lookupBoth maps key = recorded result) :
    (key ∈ maps.1 ↔ result.2 = []) ∧ (key ∈ maps.2 ↔ result.2 ≠ []) ∧
      (result.2 ≠ [] → maps.2.lookup key = some []) := by
  have first : maps.1.lookup key = (recorded result).1 := congrArg Prod.fst both
  have second : maps.2.lookup key = (recorded result).2 := congrArg Prod.snd both
  rw [← AList.lookup_isSome, ← AList.lookup_isSome, first, second]
  unfold recorded
  by_cases silent : result.2 = []
  · simp [silent]
  · simp [silent]

section

variable {policies : GoMap (List Authority)} {maps : PolicyMaps}
  (run : validatePolicies p oracle ref kc policies = .ok maps)

include run

/-- A policy is in the first map if it was validated without errors, and otherwise in the second,
without its errors. -/
theorem policy_recorded (named : policies.lookup key = some authorities) : ∃ result,
    validatePolicy p oracle ref kc authorities = .ok result ∧
      (key ∈ maps.1 ↔ result.2 = []) ∧ (key ∈ maps.2 ↔ result.2 ≠ []) ∧
      (result.2 ≠ [] → maps.2.lookup key = some []) := by
  obtain ⟨result, validated, both⟩ := (validatePolicies_lookup run key).1 authorities named
  exact ⟨result, validated, mem_of_recorded both⟩

theorem not_mem_of_absent (absent : policies.lookup key = none) :
    key ∉ maps.1 ∧ key ∉ maps.2 := by
  have both := (validatePolicies_lookup run key).2 absent
  have nothing : maps.1.lookup key = none := congrArg Prod.fst both
  have unset : maps.2.lookup key = none := congrArg Prod.snd both
  exact ⟨AList.lookup_eq_none.mp nothing, AList.lookup_eq_none.mp unset⟩

theorem validatePolicies_perm {reordered : GoMap (List Authority)}
    (same : policies.entries.Perm reordered.entries) :
    ∃ maps', validatePolicies p oracle ref kc reordered = .ok maps' ∧
      ∀ key, lookupBoth maps' key = lookupBoth maps key := by
  have returns : Returns (validatePolicies p oracle ref kc reordered) := by
    have returned : Returns (validatePolicies p oracle ref kc policies) := ⟨maps, run⟩
    unfold validatePolicies at returned ⊢
    rw [returns_foldlM returns_validatePoliciesStep] at returned ⊢
    exact fun entry inside => returned entry (same.mem_iff.mpr inside)
  obtain ⟨maps', run'⟩ := returns
  refine ⟨maps', run', fun key => ?_⟩
  have holds := validatePolicies_lookup run key
  have holds' := validatePolicies_lookup run' key
  rw [← AList.perm_lookup same] at holds'
  cases named : policies.lookup key with
  | none => rw [holds'.2 named, holds.2 named]
  | some authorities =>
    obtain ⟨result, validated, is⟩ := holds.1 authorities named
    obtain ⟨result', validated', is'⟩ := holds'.1 authorities named
    rw [is, is', Except.ok.inj (validated'.symm.trans validated)]

/-- The documented maps leave no policy unverified: its errors would have been lost. -/
theorem Documented.verified (documented : Documented p oracle ref kc policies maps)
    (named : policies.lookup key = some authorities) :
    PolicyVerified p oracle ref kc authorities := by
  obtain ⟨result, validated, first, second, empty⟩ := policy_recorded run named
  rw [← documented.signatures key authorities named, first]
  by_contra failed
  obtain ⟨sigs, errs, validated', found⟩ :=
    documented.errors key authorities named (second.mpr failed)
  have lost : errs = [] := Option.some.inj (found.symm.trans (empty failed))
  apply failed
  rw [Except.ok.inj (validated.symm.trans validated'), lost]

/-- Where every policy is verified, the maps are the documented ones. -/
theorem documented_of_verified
    (verified : ∀ key authorities, policies.lookup key = some authorities →
      PolicyVerified p oracle ref kc authorities) : Documented p oracle ref kc policies maps := by
  have clean : ∀ key authorities, policies.lookup key = some authorities →
      key ∈ maps.1 ∧ key ∉ maps.2 := by
    intro key authorities named
    obtain ⟨result, validated, first, second, -⟩ := policy_recorded run named
    have silent : result.2 = [] := by
      obtain ⟨found, silent⟩ := validateAuthorities_verified validated
      exact silent (found.mpr (verified key authorities named))
    rw [first, second]
    exact ⟨silent, not_not_intro silent⟩
  constructor
  · intro key authorities named
    exact iff_of_true (clean key authorities named).1 (verified key authorities named)
  · intro key authorities named failed
    exact absurd failed (clean key authorities named).2

end

/-- **What `validatePolicies` returns, against its documentation.** For every map of policies and
every oracle, a run that returns puts each policy, and nothing else, into exactly one of the maps,
whatever the order of iteration. They are the documented ones exactly when a signature was verified
for every policy: the errors of a policy that fails are lost, and a policy that checks nothing
counts as validated. -/
theorem validatePolicies_documented_iff {policies : GoMap (List Authority)} {maps : PolicyMaps}
    (run : validatePolicies p oracle ref kc policies = .ok maps) :
    (∀ key, ¬(key ∈ maps.1 ∧ key ∈ maps.2)) ∧
    (∀ key, key ∈ maps.1 ∨ key ∈ maps.2 ↔ key ∈ policies) ∧
    (∀ reordered : GoMap (List Authority), policies.entries.Perm reordered.entries →
      ∃ maps', validatePolicies p oracle ref kc reordered = .ok maps' ∧
        ∀ key, lookupBoth maps' key = lookupBoth maps key) ∧
    (Documented p oracle ref kc policies maps ↔
      ∀ key authorities, policies.lookup key = some authorities →
        PolicyVerified p oracle ref kc authorities) := by
  refine ⟨fun key both => ?_, fun key => ?_, fun reordered => validatePolicies_perm run, ?_⟩
  · cases named : policies.lookup key with
    | none => exact (not_mem_of_absent run named).1 both.1
    | some authorities =>
      obtain ⟨result, -, first, second, -⟩ := policy_recorded run named
      exact second.mp both.2 (first.mp both.1)
  · cases named : policies.lookup key with
    | none =>
      have absent := not_mem_of_absent run named
      rw [AList.lookup_eq_none] at named
      simp [absent.1, absent.2, named]
    | some authorities =>
      obtain ⟨result, -, first, second, -⟩ := policy_recorded run named
      rw [first, second]
      exact iff_of_true (Classical.em _) (GoMap.mem_of_lookup named)
  · constructor
    · exact fun documented key authorities named => documented.verified run named
    · exact documented_of_verified run

/-- A keyless authority. -/
def keylessAuthority (url : Option Url) : Authority := ⟨none, some ⟨url, [], none⟩, [], none, []⟩

/-- Two policies, of which one names a Fulcio. -/
def twoPolicies : GoMap (List Authority) :=
  ((∅ : GoMap (List Authority)).insert "named" [keylessAuthority (some ⟨"fulcio.local"⟩)]).insert
    "unnamed" [keylessAuthority none]

/-- An image. -/
def sampleReference : Reference := .digest "registry.local/app@sha256:00"

/-- No signature verifies. The policy that fails is recorded without its error, and the other one,
which checks nothing, is recorded as validated. -/
theorem policy_errors_lost : ∃ maps,
    validatePolicies sampleWebhook denyingOracle sampleReference ⟨"default"⟩ twoPolicies =
      .ok maps ∧
    validatePolicy sampleWebhook denyingOracle sampleReference ⟨"default"⟩
        [keylessAuthority (some ⟨"fulcio.local"⟩)] =
      .ok ([], [⟨"validate signatures with fulcio: no matching signatures"⟩]) ∧
    lookupBoth maps "named" = (none, some []) ∧ lookupBoth maps "unnamed" = (some [], none) ∧
    ¬Documented sampleWebhook denyingOracle sampleReference ⟨"default"⟩ twoPolicies maps := by
  refine ⟨_, rfl, rfl, rfl, rfl, fun documented => ?_⟩
  obtain ⟨sigs, errs, validated, found⟩ := documented.errors "named" _ rfl
    (AList.lookup_isSome.mp rfl)
  cases validated
  cases found

/-- Where a signature is verified for the one policy, the maps are the documented ones. -/
theorem validatePolicies_documented_iff_verified : ∃ maps,
    validatePolicies sampleWebhook acceptingOracle sampleReference ⟨"default"⟩
        ((∅ : GoMap (List Authority)).insert "named"
          [keylessAuthority (some ⟨"fulcio.local"⟩)]) = .ok maps ∧
    Documented sampleWebhook acceptingOracle sampleReference ⟨"default"⟩
      ((∅ : GoMap (List Authority)).insert "named"
        [keylessAuthority (some ⟨"fulcio.local"⟩)]) maps := by
  refine ⟨_, rfl, (validatePolicies_documented_iff rfl).2.2.2.mpr fun key authorities named => ?_⟩
  by_cases same : key = "named"
  · rw [same, AList.lookup_insert] at named
    cases named
    exact ⟨_, List.mem_singleton_self _, _, rfl⟩
  · rw [AList.lookup_insert_ne same] at named
    cases named

end Cosign.Verif
