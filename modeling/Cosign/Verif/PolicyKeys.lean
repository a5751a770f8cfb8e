import Cosign.Spec.Rounds
import Cosign.Tuf.Policy

/-!
# The key ids of the root role

`policy init` adds the keys of the maintainers to the root and to the role. The role compares the
new keys with the ids that it held before the call and not with each other, so a key that is given
twice in the call that first adds it is listed twice. The ids are otherwise those of the keys that
were added (`role_key_ids_iff`).
-/
namespace Cosign.Verif

open Cosign.Go Cosign.Encoding Cosign.Tuf Cosign.Spec

variable {p : PolicyPlatform}

/-- The ids of some keys. -/
def keyIDs (p : PolicyPlatform) (keys : List Key) : List String := keys.map (Key.id p)

/-- Lists of keys that are added one after another, each with a threshold. -/
abbrev Rounds : Type := List (List Key × Int64)

/-- The ids of the keys that are not among those of earlier rounds. -/
def newIDs (p : PolicyPlatform) (before : Rounds) (keys : List Key) : List String :=
  (keyIDs p keys).filter fun id => ∀ earlier ∈ before, id ∉ keyIDs p earlier.1

/-- The root after some rounds of `policy init`. -/
def addRounds (p : PolicyPlatform) (rounds : Rounds) : Call Root :=
  rounds.foldlM (fun root round => root.addMaintainers p round.1 round.2) (newRoot p)

/-! ## One call -/

/-- The loop appends the ids that the role did not hold before it. -/
theorem foldl_addKeyID (roleIDs : List String) (keys : List Key) (state : List String × Bool) :
    keys.foldl (addKeyID p roleIDs) state =
      (state.1 ++ (keyIDs p keys).filter (· ∉ roleIDs),
        state.2 || (keyIDs p keys).any (· ∉ roleIDs)) := by
  induction keys generalizing state with
  | nil => simp [keyIDs]
  | cons first rest ih =>
    rw [List.foldl_cons, ih]
    by_cases known : first.id p ∈ roleIDs
    · simp [addKeyID, keyIDs, known]
    · simp [addKeyID, keyIDs, known]

theorem addKeysWithThreshold_eq (role : Role) (keys : List Key) (threshold : Int64) :
    role.addKeysWithThreshold p keys threshold =
      (⟨collect role.keyIDs (keyIDs p keys), threshold⟩,
        (keyIDs p keys).any (· ∉ role.keyIDs)) := by
  unfold Role.addKeysWithThreshold
  rw [foldl_addKeyID]
  simp [collect]

/-- Keys that the role has are not added again, and the call says so. -/
theorem addKeysWithThreshold_known {role : Role} {keys : List Key}
    (known : ∀ key ∈ keys, key.id p ∈ role.keyIDs) (threshold : Int64) :
    role.addKeysWithThreshold p keys threshold = (⟨role.keyIDs, threshold⟩, false) := by
  have nothing : (keyIDs p keys).filter (· ∉ role.keyIDs) = [] := by
    simpa [keyIDs, List.filter_eq_nil_iff] using known
  rw [addKeysWithThreshold_eq]
  simpa [collect, keyIDs, nothing] using known

/-- Every key of the root stands under its id. -/
def KeysNamed (p : PolicyPlatform) (root : Root) : Prop :=
  ∀ id held, root.keys.lookup id = some held → ∃ key, held = some key ∧ key.id p = id

/-- A key that the root has is not added again, and the call says so. -/
theorem addKey_known {root : Root} {key : Key} (known : key.id p ∈ root.keys) :
    root.addKey p key = (root, false) := by
  unfold Root.addKey
  rw [if_pos known]

/-- What `AddKey` leaves: the roles, the names of the keys, and the key beside those held. -/
theorem addKey_spec (root : Root) (key : Key) :
    (root.addKey p key).1.roles = root.roles ∧
    (KeysNamed p root → KeysNamed p (root.addKey p key).1) ∧
    ∀ id, id ∈ (root.addKey p key).1.keys ↔ id = key.id p ∨ id ∈ root.keys := by
  by_cases known : key.id p ∈ root.keys
  · rw [addKey_known known]
    refine ⟨rfl, fun named => named, fun id => ⟨.inr, ?_⟩⟩
    intro either
    cases either with
    | inl same => rwa [same]
    | inr held => exact held
  · unfold Root.addKey
    rw [if_neg known]
    refine ⟨rfl, fun named id held found => ?_, fun id => AList.mem_insert _⟩
    by_cases same : id = key.id p
    · subst same
      cases (AList.lookup_insert _).symm.trans found
      exact ⟨key, rfl, rfl⟩
    · exact named id held ((AList.lookup_insert_ne same).symm.trans found)

theorem addKeys_spec (keys : List Key) (root : Root) :
    (keys.foldl (fun root key => (root.addKey p key).1) root).roles = root.roles ∧
    (KeysNamed p root → KeysNamed p (keys.foldl (fun root key => (root.addKey p key).1) root)) ∧
    ∀ id, id ∈ (keys.foldl (fun root key => (root.addKey p key).1) root).keys ↔
      id ∈ keyIDs p keys ∨ id ∈ root.keys := by
  induction keys generalizing root with
  | nil => exact ⟨rfl, id, fun _ => by simp [keyIDs]⟩
  | cons first rest ih =>
    have ⟨roles, named, members⟩ := addKey_spec (p := p) root first
    have ⟨laterRoles, laterNamed, laterMembers⟩ := ih (root.addKey p first).1
    refine ⟨laterRoles.trans roles, fun held => laterNamed (named held), fun id => ?_⟩
    rw [List.foldl_cons, laterMembers, members]
    simp only [keyIDs, List.map_cons, List.mem_cons]
    tauto

/-! ## A run -/

/-- What holds after some rounds: the role lists the collected ids, the root has every key that
was added, and every key of the root stands under its id. -/
structure Maintained (p : PolicyPlatform) (rounds : Rounds) (root : Root) : Prop where
  /-- The ids of the role. -/
  role : ∃ threshold, root.rootRole = .ok
    ⟨collectAll (rounds.map fun round => keyIDs p round.1), threshold⟩
  /-- Every key that was added is in the root. -/
  known : ∀ round ∈ rounds, ∀ id ∈ keyIDs p round.1, id ∈ root.keys
  /-- Every key of the root stands under its id. -/
  named : KeysNamed p root

theorem maintained_newRoot : Maintained p [] (newRoot p) where
  role := ⟨1, rfl⟩
  known := nofun
  named := nofun

theorem Maintained.step {rounds : Rounds} {root : Root} (held : Maintained p rounds root)
    (keys : List Key) (threshold : Int64) :
    ∃ next, root.addMaintainers p keys threshold = .ok next ∧
      Maintained p (rounds ++ [(keys, threshold)]) next := by
  have ⟨before, role⟩ := held.role
  have ⟨roles, named, members⟩ := addKeys_spec (p := p) keys root
  have sameRole : (keys.foldl (fun root key => (root.addKey p key).1) root).rootRole =
      root.rootRole := by
    unfold Root.rootRole
    rw [roles]
  unfold Root.addMaintainers
  dsimp only
  rw [sameRole, role]
  refine ⟨_, rfl, ⟨⟨threshold, ?_⟩, ?_, named held.named⟩⟩
  · unfold Root.rootRole
    rw [AList.lookup_insert, addKeysWithThreshold_eq, List.map_append]
    exact congrArg (fun ids => Except.ok (⟨ids, threshold⟩ : Role)) (collectAll_concat _ _).symm
  · intro round listed id added
    apply (members id).mpr
    cases List.mem_append.mp listed with
    | inl earlier => exact .inr (held.known round earlier id added)
    | inr last =>
      cases List.mem_singleton.mp last
      exact .inl added

theorem maintained_addRounds (rounds : Rounds) :
    ∃ root, addRounds p rounds = .ok root ∧ Maintained p rounds root := by
  induction rounds using List.reverseRecOn with
  | nil => exact ⟨newRoot p, rfl, maintained_newRoot⟩
  | append_singleton before last ih =>
    have ⟨root, ran, held⟩ := ih
    have ⟨next, returned, kept⟩ := held.step last.1 last.2
    refine ⟨next, ?_, kept⟩
    unfold addRounds at ran ⊢
    rw [List.foldlM_append, ran]
    show (root.addMaintainers p last.1 last.2 >>= _) = _
    rw [returned]
    rfl

/-- **Key ids of the root role.** After any rounds of adding keys to a new root, the role lists
exactly the ids of the keys that were added, each a key of the root under its id; adding listed keys
again changes nothing and says so; and at most as many distinct ids can sign as are listed. No id is
listed twice if and only if in every round the keys that no earlier round added have distinct ids.
-/
theorem role_key_ids_iff (p : PolicyPlatform) (rounds : Rounds) :
    ∃ root role, addRounds p rounds = .ok root ∧ root.rootRole = .ok role ∧
      (∀ id, id ∈ role.keyIDs ↔ ∃ round ∈ rounds, id ∈ keyIDs p round.1) ∧
      (∀ id ∈ role.keyIDs, ∃ key, root.keys.lookup id = some (some key) ∧ key.id p = id) ∧
      (∀ key, key.id p ∈ role.keyIDs → root.addKey p key = (root, false)) ∧
      (∀ keys threshold, (∀ key ∈ keys, key.id p ∈ role.keyIDs) →
        role.addKeysWithThreshold p keys threshold = (⟨role.keyIDs, threshold⟩, false)) ∧
      (∀ signers : List String, signers.Nodup → signers ⊆ role.keyIDs →
        signers.length ≤ role.keyIDs.length) ∧
      (role.keyIDs.Nodup ↔ ∀ before round, before ++ [round] <+: rounds →
        (newIDs p before round.1).Nodup) := by
  have ⟨root, ran, held⟩ := maintained_addRounds (p := p) rounds
  have ⟨threshold, role⟩ := held.role
  have listed (id : String) : id ∈ collectAll (rounds.map fun round => keyIDs p round.1) ↔
      ∃ round ∈ rounds, id ∈ keyIDs p round.1 := by
    simp [mem_collectAll]
  have known (id : String) (inRole : id ∈ collectAll (rounds.map fun round => keyIDs p round.1)) :
      id ∈ root.keys := by
    have ⟨round, inRounds, added⟩ := (listed id).mp inRole
    exact held.known round inRounds id added
  refine ⟨root, _, ran, role, listed, ?_, ?_, ?_, ?_, nodup_collectAll⟩
  · intro id inRole
    have ⟨value, found⟩ := GoMap.exists_lookup (known id inRole)
    have ⟨key, same, own⟩ := held.named id value found
    exact ⟨key, same ▸ found, own⟩
  · intro key inRole
    exact addKey_known (known _ inRole)
  · intro keys threshold inRole
    exact addKeysWithThreshold_known inRole threshold
  · intro signers distinct inRole
    exact (List.subperm_of_subset distinct inRole).length_le

/-- A platform on which the id of a key is that of its identity. -/
def identityPlatform : PolicyPlatform where
  sha256 := id
  encodeCanonical key :=
    match getFulcioKeyVal (some key) with
    | .ok (.ok val) => utf8Bytes val.identity
    | _ => []
  validEmail _ := true
  defaultExpires := "2022-09-01T00:00:00Z"
  expiresAfter _ := "2022-12-01T00:00:00Z"

/-- A maintainer who is given twice, once with a space before the address, is listed twice under
one id. -/
theorem repeated_maintainer_listed_twice :
    (initPolicy identityPlatform ⟨["jo@a", " jo@a"], "", 2, 0, "registry.example.com/jo"⟩ >>=
      Root.rootRole) = .ok ⟨["6a6f4061", "6a6f4061"], 2⟩ := by
  decide +kernel

end Cosign.Verif
