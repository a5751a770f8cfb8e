import Cosign.Verif.PolicyTransport

/-!
# The keys of the secret

`getKeys` reports the errors of PEM blocks that are no keys only if the slice of keys is nil. The
slice is made empty, not nil, so there is never an error (`getKeys_eq`), and data without a block
gives no keys, which to `valid` means that any certificate of Fulcio will do. The secret is what it
is for exactly when its data has a block and every block is a key (`secret_keys_iff`).
-/
namespace Cosign.Verif

open Cosign.Go Cosign.Encoding Cosign.Oci Cosign.Verify Cosign.Webhook Cosign.Spec

variable {p : WebhookPlatform} {cfg : GoMap Bytes} {data : Bytes}

/-- The keys of the blocks that are keys. -/
def keysOfBlocks (p : WebhookPlatform) (blocks : List Bytes) : List PublicKey :=
  blocks.filterMap fun block => (p.parsePKIXPublicKey block).toOption

/-- The loop adds the keys of the blocks that are keys to a slice that is not nil. -/
theorem getKeysSteps (blocks : List Bytes) (keys : List PublicKey) (errs : List GoError) :
    (blocks.foldl (getKeysStep p) (some keys, errs)).1 = some (keys ++ keysOfBlocks p blocks) := by
  induction blocks generalizing keys errs with
  | nil => simp [keysOfBlocks]
  | cons block rest ih =>
    rw [List.foldl_cons]
    cases parsed : p.parsePKIXPublicKey block with
    | error err =>
      simp only [getKeysStep, parsed]
      rw [ih]
      simp [keysOfBlocks, parsed, Except.toOption]
    | ok key =>
      simp only [getKeysStep, parsed]
      rw [ih]
      simp [keysOfBlocks, parsed, Except.toOption]

theorem getKeys_eq (named : cfg.lookup "cosign.pub" = some data) :
    getKeys p cfg = .ok (keysOfBlocks p (parsePems p data)) := by
  have collected := getKeysSteps (p := p) (parsePems p data) [] []
  rw [List.nil_append] at collected
  unfold getKeys
  simp only [named, Option.getD_some, collected]

/-- There is one key for each block, in order, exactly when every block is a key. -/
theorem forall₂_keysOfBlocks {blocks : List Bytes} :
    List.Forall₂ (fun block key => p.parsePKIXPublicKey block = .ok key) blocks
        (keysOfBlocks p blocks) ↔
      ∀ block ∈ blocks, ∃ key, p.parsePKIXPublicKey block = .ok key := by
  constructor
  · intro related
    exact exists_mapM_eq_ok.mp ⟨_, mapM_eq_ok.mpr related⟩
  · intro parses
    induction blocks with
    | nil => exact .nil
    | cons block rest ih =>
      obtain ⟨⟨key, parsed⟩, others⟩ := List.forall_mem_cons.mp parses
      have split : keysOfBlocks p (block :: rest) = key :: keysOfBlocks p rest := by
        simp [keysOfBlocks, parsed, Except.toOption]
      rw [split]
      exact .cons parsed (ih others)

theorem keysOfBlocks_eq_nil {blocks : List Bytes} :
    keysOfBlocks p blocks = [] ↔
      ∀ block ∈ blocks, ∃ err, p.parsePKIXPublicKey block = .error err := by
  unfold keysOfBlocks
  rw [List.filterMap_eq_nil_iff]
  refine forall₂_congr fun block _ => ?_
  cases p.parsePKIXPublicKey block <;> simp [Except.toOption]

/-- The key data of a secret is refused, or it gives at least one key, and one for each block in
order. -/
def KeysLoaded (p : WebhookPlatform) (cfg : GoMap Bytes) (data : Bytes) : Prop :=
  (∃ err, getKeys p cfg = .error err) ∨
    ∃ keys, getKeys p cfg = .ok keys ∧ keys ≠ [] ∧
      List.Forall₂ (fun block key => p.parsePKIXPublicKey block = .ok key) (parsePems p data) keys

/-- Whatever verification finds: an image that passes the check with the secret has a signature
under one of its keys. -/
def KeysChecked (p : WebhookPlatform) (cfg : GoMap Bytes) : Prop :=
  ∀ oracle ref opts keys sigs, getKeys p cfg = .ok keys →
    valid p oracle ref keys opts = .ok (sigs, none) →
    ∃ co, KeyOptions p keys opts co ∧ Vouched oracle ref co

theorem keysChecked_of_key (keyed : ∀ keys, getKeys p cfg = .ok keys → keys ≠ []) :
    KeysChecked p cfg := by
  intro oracle ref opts keys sigs loaded passed
  obtain ⟨co, options, vouched⟩ := valid_vouched passed
  rw [SecretOptions, if_neg (keyed keys loaded)] at options
  exact ⟨co, options, vouched⟩

/-- **The secret decides by its keys exactly when its data has a block and every block is a key.**
A block that is no key is dropped without an error, and where no block is a key the list of keys is
empty, which stands for Fulcio. -/
theorem secret_keys_iff (named : cfg.lookup "cosign.pub" = some data) :
    (KeysLoaded p cfg data ∧ KeysChecked p cfg ↔
      parsePems p data ≠ [] ∧
        ∀ block ∈ parsePems p data, ∃ key, p.parsePKIXPublicKey block = .ok key) ∧
    (getKeys p cfg = .ok [] ↔
      ∀ block ∈ parsePems p data, ∃ err, p.parsePKIXPublicKey block = .error err) := by
  have loads : getKeys p cfg = .ok (keysOfBlocks p (parsePems p data)) := getKeys_eq named
  refine ⟨⟨fun both => ?_, fun keyed => ?_⟩, ?_⟩
  · obtain ⟨refused | ⟨keys, loaded, some_key, related⟩, -⟩ := both
    · obtain ⟨err, refused⟩ := refused
      rw [loads] at refused
      cases refused
    · have same : keysOfBlocks p (parsePems p data) = keys :=
        Except.ok.inj (loads.symm.trans loaded)
      rw [← same] at some_key related
      refine ⟨fun empty => ?_, forall₂_keysOfBlocks.mp related⟩
      rw [empty] at some_key
      exact some_key rfl
  · have related := forall₂_keysOfBlocks.mpr keyed.2
    have some_key : keysOfBlocks p (parsePems p data) ≠ [] := by
      intro empty
      rw [empty, List.forall₂_nil_right_iff] at related
      exact keyed.1 related
    refine ⟨.inr ⟨_, loads, some_key, related⟩, keysChecked_of_key fun keys loaded => ?_⟩
    rw [← Except.ok.inj (loads.symm.trans loaded)]
    exact some_key
  · rw [loads, Except.ok.injEq]
    exact keysOfBlocks_eq_nil

/-- A platform on which every text that is not empty is one PEM block with a public key. -/
def keyWebhook : WebhookPlatform :=
  { certificateWebhook with parsePKIXPublicKey := fun block => .ok ⟨.ecdsa, block⟩ }

/-- A secret with some key data. -/
def secretWith (data : Bytes) : GoMap Bytes := AList.singleton "cosign.pub" data

/-- With one block that is a key, the secret decides by that key. -/
theorem secret_keys_iff_block :
    getKeys keyWebhook (secretWith [1]) = .ok [⟨.ecdsa, [1]⟩] ∧
      KeysLoaded keyWebhook (secretWith [1]) [1] ∧ KeysChecked keyWebhook (secretWith [1]) := by
  have done : parsePems keyWebhook [] = [] := by
    rw [parsePems]
    rfl
  have blocks : parsePems keyWebhook [1] = [[1]] := by
    rw [parsePems]
    exact congrArg (List.cons [1]) done
  refine ⟨?_, (secret_keys_iff rfl).1.mpr ⟨?_, fun block _ => ⟨_, rfl⟩⟩⟩
  · rw [getKeys_eq rfl, blocks]
    rfl
  · rw [blocks]
    exact List.cons_ne_nil _ _

/-- An oracle that finds a signature with a certificate of Fulcio and none with a key. -/
def fulcioOracle : SignatureOracle where
  verify _ co :=
    if co.sigVerifier.isSome then .ok (.error ⟨"no matching signatures"⟩)
    else .ok (.ok [sampleLayer "AQ==" none none])
  nonempty _ co _ verified := by
    split at verified
    · cases verified
    · cases verified
      exact List.cons_ne_nil _ _

/-- **Key data without a PEM block admits what anybody signed with Fulcio.** There is no error and
there are no keys, and the pod is admitted although none of its signatures is by a key. -/
theorem malformed_secret_trusts_fulcio :
    getKeys sampleWebhook (secretWith (utf8Bytes "not a PEM")) = .ok [] ∧
    validatePodSpec sampleWebhook fulcioOracle none (.ok (secretWith (utf8Bytes "not a PEM")))
      samplePod sampleOptions = .ok [] ∧
    ¬KeysLoaded sampleWebhook (secretWith (utf8Bytes "not a PEM")) (utf8Bytes "not a PEM") ∧
    ¬KeysChecked sampleWebhook (secretWith (utf8Bytes "not a PEM")) := by
  have loads : getKeys sampleWebhook (secretWith (utf8Bytes "not a PEM")) = .ok [] := by
    rw [getKeys_eq rfl, parsePems]
    rfl
  refine ⟨loads, ?_, ?_, fun checked => ?_⟩
  · have chained : sampleWebhook.newKeychain sampleOptions = .ok ⟨"default"⟩ := rfl
    simp only [validatePodSpec, chained, loads]
    decide +kernel
  · intro loaded
    obtain refused | ⟨keys, loaded, some_key, -⟩ := loaded
    · obtain ⟨err, refused⟩ := refused
      rw [loads] at refused
      cases refused
    · exact some_key (Except.ok.inj (loads.symm.trans loaded)).symm
  · obtain ⟨co, ⟨key, member, -⟩, -⟩ :=
      checked fulcioOracle (.digest "registry.local/app@sha256:00") [] [] _ loads rfl
    exact List.not_mem_nil member

end Cosign.Verif
