import Mathlib.Data.List.Infix
import Mathlib.Logic.Function.Basic

/-!
# Stores that events change key by key

A store that holds a list under every key grows when every list becomes one that begins with it,
over any number of operations (`grows_foldl`). An operation that appends at most one value under one
key (`Appends`) leaves the other lists as they are.

A table follows events if each says what its key is to hold from then on: a key holds what the last
event about it says (`follow_last`), or what it held.
-/
namespace Cosign.Spec

section Growth

variable {κ α σ ι : Type} {key other : κ} {new : α → Prop} {before middle after : κ → List α}

/-- Every list is a beginning of what it becomes. -/
def Grows (before after : κ → List α) : Prop := ∀ key, before key <+: after key

/-- Growth composes. -/
theorem Grows.trans (first : Grows before middle) (second : Grows middle after) :
    Grows before after := fun key => (first key).trans (second key)

/-- A store whose every operation lets it grow grows over any number of operations. -/
theorem grows_foldl {view : σ → κ → List α} {step : σ → ι → σ}
    (grows : ∀ state item, Grows (view state) (view (step state item))) (start : σ)
    (items : List ι) : Grows (view start) (view (items.foldl step start)) := by
  induction items generalizing start with
  | nil => exact fun key => List.prefix_refl _
  | cons item rest ih => exact (grows start item).trans (ih (step start item))

variable [DecidableEq κ]

/-- At most one value is appended, under the given key, and it is a new one. -/
inductive Appends (key : κ) (new : α → Prop) (before after : κ → List α) : Prop
  /-- Nothing is appended. -/
  | kept : after = before → Appends key new before after
  | appended {value : α} : new value →
      after = Function.update before key (before key ++ [value]) → Appends key new before after

/-- The lists under other keys are kept. -/
theorem Appends.elsewhere (appends : Appends key new before after) (different : other ≠ key) :
    after other = before other := by
  cases appends with
  | kept same => rw [same]
  | appended _ added => rw [added, Function.update_of_ne different]

/-- The list under the key is kept, or it has one value more. -/
theorem Appends.here (appends : Appends key new before after) :
    after key = before key ∨ ∃ value, new value ∧ after key = before key ++ [value] := by
  cases appends with
  | kept same => exact .inl (by rw [same])
  | appended fresh added => exact .inr ⟨_, fresh, by rw [added, Function.update_self]⟩

/-- Appending lets a store grow. -/
theorem Appends.grows (appends : Appends key new before after) : Grows before after := by
  intro other
  by_cases same : other = key
  · rw [same]
    cases appends.here with
    | inl kept => rw [kept]
    | inr added =>
      obtain ⟨value, -, added⟩ := added
      rw [added]
      exact List.prefix_append _ _
  · rw [appends.elsewhere same]

end Growth

section Table

variable {ε κ ν : Type} [DecidableEq κ]

/-- The table after some events. -/
def follow (key : ε → κ) (wanted : ε → Option ν) (table : κ → Option ν) (events : List ε) :
    κ → Option ν :=
  events.foldl (fun held event => Function.update held (key event) (wanted event)) table

variable {key : ε → κ} {wanted : ε → Option ν} {table : κ → Option ν}

/-- A key that no event is about holds what it held. -/
theorem follow_unseen {name : κ} (events : List ε) (unseen : ∀ event ∈ events, key event ≠ name) :
    follow key wanted table events name = table name := by
  induction events generalizing table with
  | nil => rfl
  | cons first rest ih =>
    show follow key wanted (Function.update table (key first) (wanted first)) rest name = _
    rw [ih fun event listed => unseen event (List.mem_cons_of_mem _ listed)]
    exact Function.update_of_ne (unseen first List.mem_cons_self).symm _ _

/-- A key holds what the last event about it says. -/
theorem follow_last (before : List ε) (event : ε) (after : List ε)
    (last : ∀ later ∈ after, key later ≠ key event) :
    follow key wanted table (before ++ event :: after) (key event) = wanted event := by
  unfold follow
  rw [List.foldl_append, List.foldl_cons]
  have kept : follow key wanted
      (Function.update (follow key wanted table before) (key event) (wanted event)) after
      (key event) = _ := follow_unseen after last
  exact kept.trans (Function.update_self ..)

end Table

end Cosign.Spec
