import Cosign.Tuf.Policy

/-!
# The lookup of a signer among the root keys

`ValidKey` takes the first root key that matches the signer and only then asks whether the role
lists it. So a matching key that is not listed hides one that is, if the loop meets it first; and a
root key that cannot be read ends the loop. The lookup finds a listed key in every order exactly
when there is no such key (`valid_key_exact_iff`).
-/
namespace Cosign.Verif

open Cosign.Go Cosign.Encoding Cosign.Tuf

/-- A root key stands for the signer: it has the identity of the signer, and no issuer or that of
the signer. -/
def StandsFor (rootVal signer : FulcioKeyVal) : Prop :=
  rootVal.identity = signer.identity ∧ (rootVal.issuer = "" ∨ rootVal.issuer = signer.issuer)

/-- The role lists the key id. -/
def RoleLists (root : Root) (role id : String) : Prop :=
  ∃ held, root.roles.lookup role = some (some held) ∧ id ∈ held.keyIDs

/-- The id of a root key that the role lists and that stands for the signer. -/
def Entitled (root : Root) (role : String) (signer : FulcioKeyVal) (id : String) : Prop :=
  RoleLists root role id ∧ ∃ rootKey rootVal, root.keys.lookup id = some rootKey ∧
    getFulcioKeyVal rootKey = .ok (.ok rootVal) ∧ StandsFor rootVal signer

/-- What the lookup is for: in every order of the loop it succeeds if there is such a key and only
then, and returns the id of one. -/
def LookupExact (root : Root) (key : Option Key) (role : String) (signer : FulcioKeyVal) : Prop :=
  ∀ order,
    ((∃ id, root.validKey order key role = .ok (.ok id)) ↔ ∃ id, Entitled root role signer id) ∧
    ∀ id, root.validKey order key role = .ok (.ok id) → Entitled root role signer id

/-- The root key can be read; and if it stands for the signer, it has an id that is not empty and
that the role lists. -/
def Unambiguous (root : Root) (role : String) (signer : FulcioKeyVal) (id : String)
    (rootKey : Option Key) : Prop :=
  ∃ rootVal, getFulcioKeyVal rootKey = .ok (.ok rootVal) ∧
    (StandsFor rootVal signer → id ≠ "" ∧ RoleLists root role id)

section Loop

variable {signer : FulcioKeyVal} {entries : List (Sigma fun _ : String => Option Key)}

/-- The loop ends well only if its first key can be read, and then it returns its id if it stands
for the signer and goes on if it does not. -/
theorem findKey_cons_eq_ok {id found : String} {rootKey : Option Key} :
    findKey signer (⟨id, rootKey⟩ :: entries) = .ok (.ok found) ↔
      ∃ rootVal, getFulcioKeyVal rootKey = .ok (.ok rootVal) ∧
        ((StandsFor rootVal signer ∧ found = id) ∨
          (¬StandsFor rootVal signer ∧ findKey signer entries = .ok (.ok found))) := by
  rw [findKey, bind_eq_ok]
  constructor
  · intro ⟨read, reads, goesOn⟩
    cases read with
    | error err => cases goesOn
    | ok rootVal =>
      refine ⟨rootVal, reads, ?_⟩
      dsimp only at goesOn
      split at goesOn
      · rename_i same
        cases goesOn
        exact .inl ⟨⟨same.1.symm, same.2⟩, rfl⟩
      · rename_i other
        exact .inr ⟨fun stands => other ⟨stands.1.symm, stands.2⟩, goesOn⟩
  · intro ⟨rootVal, reads, which⟩
    refine ⟨.ok rootVal, reads, ?_⟩
    dsimp only
    cases which with
    | inl here => rw [if_pos ⟨here.1.1.symm, here.1.2⟩, here.2]
    | inr later =>
      rw [if_neg fun same => later.1 ⟨same.1.symm, same.2⟩]
      exact later.2

/-- An id that the loop returns is empty or that of a key that stands for the signer. -/
theorem findKey_sound {found : String} (ends : findKey signer entries = .ok (.ok found)) :
    found = "" ∨ ∃ rootKey rootVal, ⟨found, rootKey⟩ ∈ entries ∧
      getFulcioKeyVal rootKey = .ok (.ok rootVal) ∧ StandsFor rootVal signer := by
  induction entries with
  | nil =>
    cases ends
    exact .inl rfl
  | cons first rest ih =>
    have ⟨rootVal, reads, which⟩ := findKey_cons_eq_ok.mp ends
    cases which with
    | inl here =>
      have same : first = ⟨found, first.2⟩ := by rw [here.2]
      exact .inr ⟨first.2, rootVal, by rw [← same]; exact List.mem_cons_self, reads, here.1⟩
    | inr later =>
      cases ih later.2 with
      | inl empty => exact .inl empty
      | inr found =>
        have ⟨rootKey, held, listed, known⟩ := found
        exact .inr ⟨rootKey, held, List.mem_cons_of_mem _ listed, known⟩

/-- If all keys can be read and one stands for the signer, the loop returns the id of one. -/
theorem findKey_complete (signer : FulcioKeyVal)
    (entries : List (Sigma fun _ : String => Option Key))
    (readable : ∀ entry ∈ entries, ∃ rootVal, getFulcioKeyVal entry.2 = .ok (.ok rootVal))
    (known : ∃ entry ∈ entries, ∃ rootVal, getFulcioKeyVal entry.2 = .ok (.ok rootVal) ∧
      StandsFor rootVal signer) :
    ∃ entry ∈ entries, findKey signer entries = .ok (.ok entry.1) ∧
      ∃ rootVal, getFulcioKeyVal entry.2 = .ok (.ok rootVal) ∧ StandsFor rootVal signer := by
  induction entries with
  | nil =>
    have ⟨_, listed, _⟩ := known
    cases listed
  | cons first rest ih =>
    have ⟨rootVal, reads⟩ := readable first List.mem_cons_self
    by_cases stands : StandsFor rootVal signer
    · refine ⟨first, List.mem_cons_self, ?_, rootVal, reads, stands⟩
      exact findKey_cons_eq_ok.mpr ⟨rootVal, reads, .inl ⟨stands, rfl⟩⟩
    · have ⟨entry, listed, held, readsHeld, standsHeld⟩ := known
      have later : entry ∈ rest := by
        cases List.mem_cons.mp listed with
        | inr later => exact later
        | inl here =>
          rw [here, reads] at readsHeld
          cases readsHeld
          exact absurd standsHeld stands
      have ⟨found, inRest, ends, which⟩ :=
        ih (fun entry inRest => readable entry (List.mem_cons_of_mem _ inRest))
          ⟨entry, later, held, readsHeld, standsHeld⟩
      refine ⟨found, List.mem_cons_of_mem _ inRest, ?_, which⟩
      exact findKey_cons_eq_ok.mpr ⟨rootVal, reads, .inr ⟨stands, ends⟩⟩

end Loop

section Lookup

variable {root : Root} {order : RangeOrder (Option Key)} {key : Option Key} {role : String}
  {signer : FulcioKeyVal}

/-- The lookup of a signer succeeds exactly when the loop returns an id that is not empty and that
the role lists. -/
theorem validKey_eq_ok (parsable : getFulcioKeyVal key = .ok (.ok signer)) {id : String} :
    root.validKey order key role = .ok (.ok id) ↔
      findKey signer (order.arrange root.keys).entries = .ok (.ok id) ∧ id ≠ "" ∧
        RoleLists root role id := by
  unfold Root.validKey
  rw [parsable]
  show (findKey signer (order.arrange root.keys).entries >>= _) = _ ↔ _
  rw [bind_eq_ok]
  constructor
  · intro ⟨read, ends, goesOn⟩
    cases read with
    | error err => cases goesOn
    | ok result =>
      dsimp only at goesOn
      split at goesOn
      · cases goesOn
      · rename_i nonempty
        split at goesOn
        · cases goesOn
        · rename_i rootRole found
          have ⟨held, notNil, listed⟩ := bind_eq_ok.mp goesOn
          rw [deref_eq_ok.mp notNil] at found
          split at listed
          · rename_i member
            cases listed
            exact ⟨ends, nonempty, held, found, member⟩
          · cases listed
  · intro ⟨ends, nonempty, held, found, member⟩
    refine ⟨.ok id, ends, ?_⟩
    dsimp only
    rw [if_neg nonempty, found]
    show (if id ∈ held.keyIDs then _ else _) = _
    rw [if_pos member]

/-- Whatever the order, a key id that the lookup returns is one that the signer is entitled to. -/
theorem validKey_entitled (parsable : getFulcioKeyVal key = .ok (.ok signer)) {id : String}
    (valid : root.validKey order key role = .ok (.ok id)) : Entitled root role signer id := by
  have ⟨ends, nonempty, listed⟩ := (validKey_eq_ok parsable).mp valid
  cases findKey_sound ends with
  | inl empty => exact absurd empty nonempty
  | inr known =>
    have ⟨rootKey, rootVal, visited, reads, stands⟩ := known
    exact ⟨listed, rootKey, rootVal, order.mem_arrange.mp visited, reads, stands⟩

/-- A lookup that succeeds in the order that starts at a key finds that key unambiguous. -/
theorem unambiguous_of_startAt (parsable : getFulcioKeyVal key = .ok (.ok signer)) {id : String}
    {rootKey : Option Key} (held : root.keys.lookup id = some rootKey)
    (succeeds : ∃ found, root.validKey (.startAt id) key role = .ok (.ok found)) :
    Unambiguous root role signer id rootKey := by
  have ⟨found, valid⟩ := succeeds
  have ⟨ends, nonempty, listed⟩ := (validKey_eq_ok parsable).mp valid
  have ⟨rest, visited⟩ := RangeOrder.entries_startAt held
  rw [visited] at ends
  have ⟨rootVal, reads, which⟩ := findKey_cons_eq_ok.mp ends
  refine ⟨rootVal, reads, ?_⟩
  intro stands
  cases which with
  | inl here =>
    rw [← here.2]
    exact ⟨nonempty, listed⟩
  | inr later => exact absurd stands later.1

/-- If every root key is unambiguous, the lookup succeeds in every order for a signer that is
entitled to a key. -/
theorem validKey_of_unambiguous (parsable : getFulcioKeyVal key = .ok (.ok signer))
    (entitled : ∃ id, Entitled root role signer id)
    (unambiguous : ∀ id rootKey, root.keys.lookup id = some rootKey →
      Unambiguous root role signer id rootKey) :
    ∃ id, root.validKey order key role = .ok (.ok id) := by
  have ⟨id, _, rootKey, rootVal, held, reads, stands⟩ := entitled
  have ⟨entry, visited, ends, foundVal, foundReads, foundStands⟩ :=
    findKey_complete signer (order.arrange root.keys).entries
      (fun entry visited =>
        have ⟨rootVal, reads, _⟩ := unambiguous entry.1 entry.2 (order.mem_arrange.mp visited)
        ⟨rootVal, reads⟩)
      ⟨⟨id, rootKey⟩, order.mem_arrange.mpr held, rootVal, reads, stands⟩
  have ⟨otherVal, otherReads, allowed⟩ :=
    unambiguous entry.1 entry.2 (order.mem_arrange.mp visited)
  cases otherReads.symm.trans foundReads
  have ⟨nonempty, listed⟩ := allowed foundStands
  exact ⟨entry.1, (validKey_eq_ok parsable).mpr ⟨ends, nonempty, listed⟩⟩

end Lookup

/-- **Exact lookup.** Whatever the order, a key id that the lookup returns is one that the signer
is entitled to. The lookup is exact, in every order of the loop, if and only if a signer that is
entitled to a key meets unambiguous root keys only: each can be read, and each that stands for the
signer is listed in the role under an id that is not empty. -/
theorem valid_key_exact_iff (root : Root) (key : Option Key) (role : String)
    (signer : FulcioKeyVal) (parsable : getFulcioKeyVal key = .ok (.ok signer)) :
    (∀ order id, root.validKey order key role = .ok (.ok id) → Entitled root role signer id) ∧
    (LookupExact root key role signer ↔
      ((∃ id, Entitled root role signer id) →
        ∀ id rootKey, root.keys.lookup id = some rootKey →
          Unambiguous root role signer id rootKey)) := by
  refine ⟨fun order id => validKey_entitled parsable, ?_⟩
  constructor
  · intro exact entitled id rootKey held
    exact unambiguous_of_startAt parsable held ((exact (.startAt id)).1.mpr entitled)
  · intro unambiguous order
    refine ⟨⟨?_, ?_⟩, fun id => validKey_entitled parsable⟩
    · intro ⟨id, valid⟩
      exact ⟨id, validKey_entitled parsable valid⟩
    · intro entitled
      exact validKey_of_unambiguous parsable entitled (unambiguous entitled)

/-- A signer. -/
def maintainer : FulcioKeyVal := ⟨"jo@example.com", "https://accounts.example.com"⟩

/-- The key of the signer. -/
def maintainerSignerKey : Key := fulcioVerificationKey maintainer.identity maintainer.issuer

theorem maintainerSignerKey_reads :
    getFulcioKeyVal (some maintainerSignerKey) = .ok (.ok maintainer) :=
  getFulcioKeyVal_verificationKey _ _

/-- A root with some keys, of which its role lists some. -/
def rootWith (keys : GoMap (Option Key)) (keyIDs : List String) : Root :=
  ⟨"root", "1.0", 1, "2022-09-01T00:00:00Z", keys,
    AList.singleton "root" (some ⟨keyIDs, 1⟩), "registry.example.com/jo", true⟩

/-- Three keys of the signer's identity, without an issuer, with the issuer of the signer and with
another one; the role lists the first two. -/
def sharedRoot : Root :=
  rootWith (((AList.singleton "k3" (some (fulcioVerificationKey maintainer.identity
    "https://other.example.com"))).insert "k2" (some maintainerSignerKey)).insert "k1"
      (some (fulcioVerificationKey maintainer.identity ""))) ["k1", "k2"]

/-- A root that lists each of its keys that stands for the signer is looked up exactly, although the
signer is entitled to two of them. -/
theorem valid_key_exact_iff_shared :
    LookupExact sharedRoot (some maintainerSignerKey) "root" maintainer ∧
      ∃ id, sharedRoot.validKey (.startAt "k2") (some maintainerSignerKey) "root" = .ok (.ok id) ∧
        Entitled sharedRoot "root" maintainer id := by
  have lookup := valid_key_exact_iff sharedRoot _ "root" maintainer maintainerSignerKey_reads
  have lists (id : String) (listed : id ∈ ["k1", "k2"]) : RoleLists sharedRoot "root" id :=
    ⟨⟨["k1", "k2"], 1⟩, rfl, listed⟩
  refine ⟨lookup.2.mpr ?_, "k2", rfl, lookup.1 (.startAt "k2") "k2" rfl⟩
  intro _ id rootKey held
  have listed : (⟨id, rootKey⟩ : Sigma fun _ : String => Option Key) ∈
      [⟨"k1", some (fulcioVerificationKey maintainer.identity "")⟩,
        ⟨"k2", some maintainerSignerKey⟩,
        ⟨"k3", some (fulcioVerificationKey maintainer.identity "https://other.example.com")⟩] :=
    AList.mem_lookup_iff.mp held
  simp only [List.mem_cons, List.not_mem_nil, or_false] at listed
  rcases listed with same | same | same <;> cases same
  · exact ⟨_, getFulcioKeyVal_verificationKey _ _, fun _ => ⟨by decide, lists "k1" (by decide)⟩⟩
  · exact ⟨_, getFulcioKeyVal_verificationKey _ _, fun _ => ⟨by decide, lists "k2" (by decide)⟩⟩
  · refine ⟨_, getFulcioKeyVal_verificationKey _ _, fun stands => ?_⟩
    exact absurd stands.2 (by decide +kernel)

/-- A key of the signer's identity without an issuer, which the role does not list, and the key of
the signer, which it lists. -/
def hiddenRoot : Root :=
  rootWith ((AList.singleton "k2" (some maintainerSignerKey)).insert "k1"
    (some (fulcioVerificationKey maintainer.identity ""))) ["k2"]

/-- The signer is entitled to the key that the role lists. A loop that meets it first returns its
id; a loop that meets the other key first fails. -/
theorem unlisted_key_hides_listed :
    Entitled hiddenRoot "root" maintainer "k2" ∧
    hiddenRoot.validKey (.startAt "k2") (some maintainerSignerKey) "root" = .ok (.ok "k2") ∧
    hiddenRoot.validKey (.startAt "k1") (some maintainerSignerKey) "root" =
      .ok (.error ⟨"key not found in role"⟩) ∧
    ¬LookupExact hiddenRoot (some maintainerSignerKey) "root" maintainer := by
  have entitled : Entitled hiddenRoot "root" maintainer "k2" :=
    ⟨⟨⟨["k2"], 1⟩, rfl, List.mem_singleton.mpr rfl⟩, some maintainerSignerKey, maintainer, rfl,
      maintainerSignerKey_reads, rfl, .inr rfl⟩
  have fails : hiddenRoot.validKey (.startAt "k1") (some maintainerSignerKey) "root" =
      .ok (.error ⟨"key not found in role"⟩) := rfl
  refine ⟨entitled, rfl, fails, ?_⟩
  intro exact
  have ⟨id, valid⟩ := (exact (.startAt "k1")).1.mpr ⟨"k2", entitled⟩
  cases fails.symm.trans valid

end Cosign.Verif
