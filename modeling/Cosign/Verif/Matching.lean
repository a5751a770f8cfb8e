import Cosign.Spec.Admission

/-!
# Which policies match an image

`GetMatchingPolicies` appends the authorities of a policy once for each of its patterns that
matches. The lookup of its result at a name is that many copies of the policy's own authorities,
whatever the order of the iteration (`lookup_getMatchingPolicies`).
-/
namespace Cosign.Verif

open Cosign.Go Cosign.Encoding Cosign.Oci Cosign.Verify Cosign.Webhook Cosign.Spec

variable {p : WebhookPlatform} {image : String}

/-- What is found under a name after a number of copies of a list are appended to it; no copies
leave an absent name absent. -/
def copiesOver {α : Type} (found : Option (List α)) (copies : Nat) (list : List α) :
    Option (List α) :=
  if copies = 0 then found else some (found.getD [] ++ (List.replicate copies list).flatten)

theorem copiesOver_append {α : Type} (found : Option (List α)) (copies : Nat) (list : List α) :
    copiesOver (some (found.getD [] ++ list)) copies list = copiesOver found (copies + 1) list := by
  cases copies with
  | zero => simp [copiesOver]
  | succ copies => simp [copiesOver, List.replicate_succ]

/-- Copies over nothing are present exactly when there is one, and have the elements of the
list. -/
theorem copiesOver_none_eq_some {α : Type} {copies : Nat} {list all : List α}
    (made : copiesOver none copies list = some all) :
    0 < copies ∧ ∀ item, item ∈ all ↔ item ∈ list := by
  unfold copiesOver at made
  split at made
  · cases made
  · rename_i some_copies
    cases made
    refine ⟨Nat.pos_of_ne_zero some_copies, fun item => ?_⟩
    simp [some_copies]

/-- The patterns of one policy change the list under its name only, by a copy of its authorities
for each pattern that matches. -/
theorem lookup_matchSteps (k : String) (v : ClusterImagePolicy) (patterns : List ImagePattern)
    (state : Matching) (key : String) :
    (patterns.foldl (matchStep p image k v) state).ret.lookup key =
      if key = k then
        copiesOver (state.ret.lookup k) (patterns.countP (patternHits p image)) v.authorities
      else state.ret.lookup key := by
  induction patterns generalizing state with
  | nil =>
    split
    · rename_i same
      rw [same]
      rfl
    · rfl
  | cons pattern rest ih =>
    rw [List.foldl_cons, ih]
    cases matched : matchPattern p image pattern with
    | error err => simp [matchStep, patternHits, matched]
    | ok hit =>
      cases hit with
      | false => simp [matchStep, patternHits, matched]
      | true =>
        simp only [matchStep, matched, GoMap.lookup_appendAt, if_true, copiesOver_append,
          List.countP_cons, patternHits]
        split <;> rfl

/-- The loop over policies with distinct names does to each name what its own policy asks. -/
theorem lookup_matchPolicies {entries : List (Sigma fun _ : String => ClusterImagePolicy)}
    (distinct : entries.NodupKeys) (state : Matching) (key : String) :
    (matchPolicies p image state entries).ret.lookup key =
      match entries.dlookup key with
      | none => state.ret.lookup key
      | some v => copiesOver (state.ret.lookup key)
          (v.images.countP (patternHits p image)) v.authorities := by
  induction entries generalizing state with
  | nil => rfl
  | cons entry rest ih =>
    obtain ⟨k, v⟩ := entry
    obtain ⟨fresh, distinct⟩ := List.nodupKeys_cons.mp distinct
    unfold matchPolicies at ih ⊢
    rw [List.foldl_cons, ih distinct, lookup_matchSteps]
    by_cases same : key = k
    · subst same
      rw [List.dlookup_cons_eq, List.dlookup_eq_none.mpr fresh, if_pos rfl]
    · rw [List.dlookup_cons_ne _ _ same, if_neg same]

/-- **The matching policies.** Under a name stands one copy of its policy's authorities for each
pattern of the policy that matches; a policy none of whose patterns matches is absent. -/
theorem lookup_getMatchingPolicies (config : ImagePolicyConfig) (key : String) :
    (getMatchingPolicies p (some config) image).1.lookup key =
      (config.policies.lookup key).bind fun policy =>
        copiesOver none (policy.images.countP (patternHits p image)) policy.authorities := by
  show (matchPolicies p image ⟨∅, none⟩ config.policies.entries).ret.lookup key = _
  rw [lookup_matchPolicies config.policies.nodupKeys, AList.lookup_empty]
  show _ = (config.policies.entries.dlookup key).bind _
  cases config.policies.entries.dlookup key <;> rfl

theorem policyMatches_iff_count {policy : ClusterImagePolicy} :
    PolicyMatches p image policy ↔ 0 < policy.images.countP (patternHits p image) :=
  List.countP_pos_iff.symm

/-- A name in the result belongs to a policy that matches, with that policy's authorities. -/
theorem getMatchingPolicies_lookup_some {config : ImagePolicyConfig} {key : String}
    {authorities : List Authority}
    (found : (getMatchingPolicies p (some config) image).1.lookup key = some authorities) :
    ∃ policy, config.policies.lookup key = some policy ∧ PolicyMatches p image policy ∧
      ∀ authority, authority ∈ authorities ↔ authority ∈ policy.authorities := by
  rw [lookup_getMatchingPolicies] at found
  obtain ⟨policy, named, made⟩ := Option.bind_eq_some_iff.mp found
  obtain ⟨counted, same⟩ := copiesOver_none_eq_some made
  exact ⟨policy, named, policyMatches_iff_count.mpr counted, same⟩

theorem mem_getMatchingPolicies {config : ImagePolicyConfig} {key : String}
    {policy : ClusterImagePolicy} (named : config.policies.lookup key = some policy)
    (hit : PolicyMatches p image policy) :
    key ∈ (getMatchingPolicies p (some config) image).1 := by
  rw [← AList.lookup_isSome, lookup_getMatchingPolicies, named]
  simpa [copiesOver, PolicyMatches] using hit

end Cosign.Verif
