import Cosign.Go.Results
import Cosign.Webhook.Api

/-!
# Key data that is accepted and key data that is loaded

Validation asks `isValidKey` of the inline data of a key, and the webhook calls
`convertKeyDataToPublicKeys` on it. Each has its own parser of PEM; the two return the same. Data
that is accepted is loaded with the key of each of its blocks, and no other data is loaded with a
key (`key_data_accepted_iff`).
-/
namespace Cosign.Verif

open Cosign.Go Cosign.Encoding Cosign.Oci Cosign.Webhook Cosign.V1alpha1

variable (p : WebhookPlatform)

/-- A call of `parsePEMKey` on a text makes one on what follows the first block, if anything
does. -/
def Recurses (rest b : Bytes) : Prop :=
  ∃ block, p.pemDecoder.decode b = some (block, rest) ∧ 0 < rest.length

/-- The blocks that `pem.Decode` finds one after another in a text that the last of them ends. -/
inductive MadeOf : Bytes → List Bytes → Prop where
  /-- The first block is the last. -/
  | last {b block : Bytes} (decoded : p.pemDecoder.decode b = some (block, [])) : MadeOf b [block]
  /-- Other blocks follow the first. -/
  | more {b block rest : Bytes} {blocks : List Bytes}
      (decoded : p.pemDecoder.decode b = some (block, rest)) (left : 0 < rest.length)
      (others : MadeOf rest blocks) : MadeOf b (block :: blocks)

variable {p} {b : Bytes} {blocks : List Bytes} {keys : List PublicKey}

theorem recurses_wellFounded : WellFounded (Recurses p) := by
  have shorter : Subrelation (Recurses p) (measure List.length).rel := by
    intro rest b ⟨block, decoded, _⟩
    exact p.pemDecoder.shorter b block rest decoded
  exact shorter.wf (measure List.length).wf

theorem parsePEMKey_none (undecoded : p.pemDecoder.decode b = none) :
    parsePEMKey p b = ([], false) := by
  unfold parsePEMKey
  split
  · rfl
  · rename_i decoded
    rw [undecoded] at decoded
    cases decoded

theorem parsePEMKey_some {block rest : Bytes}
    (decoded : p.pemDecoder.decode b = some (block, rest)) :
    parsePEMKey p b =
      if 0 < rest.length then (block :: (parsePEMKey p rest).1, (parsePEMKey p rest).2)
      else ([block], true) := by
  rw [parsePEMKey]
  split
  · rename_i undecoded
    rw [undecoded] at decoded
    cases decoded
  · rename_i found
    rw [decoded] at found
    cases found
    rfl

/-- The parser of the validation returns what that of the webhook does. -/
theorem parsePEMKey_eq (p : WebhookPlatform) (b : Bytes) :
    Utils.parsePEMKey p b = parsePEMKey p b := by
  fun_induction Utils.parsePEMKey p b with
  | case1 b undecoded => rw [parsePEMKey_none undecoded]
  | case2 b block rest decoded left blocks only parsed ih =>
    rw [parsePEMKey_some decoded, if_pos left, ← ih, parsed]
  | case3 b block rest decoded ended => rw [parsePEMKey_some decoded, if_neg ended]

/-- The parser accepts a text exactly when its blocks end it, and returns the blocks. -/
theorem parsePEMKey_eq_true_iff : parsePEMKey p b = (blocks, true) ↔ MadeOf p b blocks := by
  constructor
  · intro parsed
    fun_induction parsePEMKey p b generalizing blocks with
    | case1 b undecoded => cases parsed
    | case2 b block rest decoded left others only found ih =>
      cases parsed
      exact .more decoded left (ih found)
    | case3 b block rest decoded ended =>
      cases parsed
      have nothing : rest = [] := List.eq_nil_of_length_eq_zero (by omega)
      subst nothing
      exact .last decoded
  · intro made
    induction made with
    | last decoded =>
      rw [parsePEMKey_some decoded]
      rfl
    | more decoded left others ih => rw [parsePEMKey_some decoded, if_pos left, ih]

theorem MadeOf.ne_nil (made : MadeOf p b blocks) : blocks ≠ [] := by
  cases made <;> exact List.cons_ne_nil _ _

theorem parsePKIXKeys_eq_mapM (pems : List Bytes) :
    parsePKIXKeys p pems = pems.mapM p.parsePKIXPublicKey := by
  induction pems with
  | nil => rfl
  | cons block rest ih =>
    rw [parsePKIXKeys, List.mapM_cons, ih]
    cases p.parsePKIXPublicKey block with
    | error err => rfl
    | ok key => cases rest.mapM p.parsePKIXPublicKey <;> rfl

/-- The keys of blocks are returned exactly when each block is parsed to its key. -/
theorem parsePKIXKeys_eq_ok :
    parsePKIXKeys p blocks = .ok keys ↔
      List.Forall₂ (fun block key => p.parsePKIXPublicKey block = .ok key) blocks keys := by
  rw [parsePKIXKeys_eq_mapM, mapM_eq_ok]

/-- Every block is a key exactly when the keys of all blocks are returned. -/
theorem all_isOk_iff (pems : List Bytes) :
    (pems.all fun block => (p.parsePKIXPublicKey block).isOk) = true ↔
      ∃ keys, parsePKIXKeys p pems = .ok keys := by
  rw [parsePKIXKeys_eq_mapM, exists_mapM_eq_ok, List.all_eq_true]
  refine forall₂_congr fun block _ => ?_
  cases p.parsePKIXPublicKey block <;> simp [Except.isOk, Except.toBool]

/-- Data is accepted exactly when blocks end it and each of them is a key. -/
theorem isValidKey_eq_true :
    isValidKey p b = true ↔
      ∃ blocks, MadeOf p b blocks ∧ ∃ keys, parsePKIXKeys p blocks = .ok keys := by
  simp only [← parsePEMKey_eq_true_iff, ← all_isOk_iff, isValidKey, parsePEMKey_eq]
  cases parsePEMKey p b with
  | mk found only => cases only <;> simp

/-- Data is loaded with keys exactly when blocks end it, and the keys are those of the blocks. -/
theorem convertKeyBytesToPublicKeys_eq_ok :
    convertKeyBytesToPublicKeys p b = .ok keys ∧ keys ≠ [] ↔
      ∃ blocks, MadeOf p b blocks ∧ parsePKIXKeys p blocks = .ok keys := by
  constructor
  · intro ⟨loaded, nonempty⟩
    unfold convertKeyBytesToPublicKeys at loaded
    split at loaded
    · cases loaded
      exact absurd rfl nonempty
    · rename_i blocks parsed
      exact ⟨blocks, parsePEMKey_eq_true_iff.mp parsed, loaded⟩
  · intro ⟨blocks, made, parsed⟩
    have loaded : convertKeyBytesToPublicKeys p b = parsePKIXKeys p blocks := by
      simp only [convertKeyBytesToPublicKeys, parsePEMKey_eq_true_iff.mpr made]
    refine ⟨loaded.trans parsed, fun empty => ?_⟩
    rw [empty, parsePKIXKeys_eq_ok, List.forall₂_nil_right_iff] at parsed
    exact made.ne_nil parsed

theorem isValidKey_iff_loaded :
    isValidKey p b = true ↔
      ∃ keys, convertKeyBytesToPublicKeys p b = .ok keys ∧ keys ≠ [] := by
  simp only [isValidKey_eq_true, convertKeyBytesToPublicKeys_eq_ok]
  constructor
  · intro ⟨blocks, made, keys, parsed⟩
    exact ⟨keys, blocks, made, parsed⟩
  · intro ⟨keys, blocks, made, parsed⟩
    exact ⟨blocks, made, keys, parsed⟩

variable (p)

/-- **A text is accepted exactly when it is loaded with a key.** -/
theorem isValidKey_iff (text : String) :
    isValidKey p (utf8Bytes text) = true ↔
      ∃ keys, convertKeyDataToPublicKeys p text = .ok keys ∧ keys ≠ [] :=
  isValidKey_iff_loaded

theorem isValidKey_nil : isValidKey p [] = false := by
  rw [Bool.eq_false_iff, Ne, isValidKey_eq_true]
  intro ⟨blocks, made, _⟩
  cases made with
  | last decoded => exact Nat.not_lt_zero _ (p.pemDecoder.shorter _ _ _ decoded)
  | more decoded left others => exact Nat.not_lt_zero _ (p.pemDecoder.shorter _ _ _ decoded)

/-- **Validation and loading of key data agree.** Neither parser of PEM calls itself for ever, and
both return the same. Data is accepted exactly when it is loaded with a key. The keys it is then
loaded with are those of its blocks, one for each, in order. -/
theorem key_data_accepted_iff :
    WellFounded (Recurses p) ∧
    (∀ b, Utils.parsePEMKey p b = parsePEMKey p b) ∧
    ∀ b,
      (isValidKey p b = true ↔
        ∃ keys, convertKeyBytesToPublicKeys p b = .ok keys ∧ keys ≠ []) ∧
      ∀ keys, convertKeyBytesToPublicKeys p b = .ok keys ∧ keys ≠ [] ↔
        ∃ blocks, MadeOf p b blocks ∧
          List.Forall₂ (fun block key => p.parsePKIXPublicKey block = .ok key) blocks keys := by
  refine ⟨recurses_wellFounded, parsePEMKey_eq p, fun b => ⟨isValidKey_iff_loaded, ?_⟩⟩
  intro keys
  rw [convertKeyBytesToPublicKeys_eq_ok]
  exact exists_congr fun blocks => and_congr_right fun _ => parsePKIXKeys_eq_ok

end Cosign.Verif
