import Mathlib.Logic.Function.Basic
import Mathlib.Order.Defs.Unbundled

/-!
# What a run may write

`Footprint allowed before after` bounds what has happened to a store: every key has what it had, or
a value that may be written there. The bound of a run follows from those of its steps.
-/
namespace Cosign.Go

variable {κ ν : Type}

/-- Every key has what it had, or a value that may be written there. -/
def Footprint (allowed : κ → ν → Prop) (before after : κ → Option ν) : Prop :=
  ∀ key, after key = before key ∨ ∃ value, allowed key value ∧ after key = some value

namespace Footprint

variable {allowed more : κ → ν → Prop} {before middle after : κ → Option ν}

/-- Nothing has happened. -/
theorem refl : Footprint allowed before before :=
  fun _ => .inl rfl

/-- One run after another. -/
theorem trans (first : Footprint allowed before middle) (second : Footprint allowed middle after) :
    Footprint allowed before after := by
  intro key
  cases second key with
  | inr written => exact .inr written
  | inl same =>
    rw [same]
    exact first key

/-- A weaker bound. -/
theorem mono (bound : Footprint allowed before after)
    (weaker : ∀ key value, allowed key value → more key value) : Footprint more before after := by
  intro key
  cases bound key with
  | inl same => exact .inl same
  | inr written =>
    obtain ⟨value, fits, now⟩ := written
    exact .inr ⟨value, weaker key value fits, now⟩

/-- A single write. -/
theorem update [DecidableEq κ] {key : κ} {value : ν} (fits : allowed key value) :
    Footprint allowed before (Function.update before key (some value)) := by
  intro other
  by_cases same : other = key
  · subst same
    exact .inr ⟨value, fits, Function.update_self ..⟩
  · exact .inl (Function.update_of_ne same ..)

/-- A key to which nothing may be written has what it had. -/
theorem unchanged (bound : Footprint allowed before after) {key : κ}
    (barred : ∀ value, ¬ allowed key value) : after key = before key := by
  cases bound key with
  | inl same => exact same
  | inr written =>
    obtain ⟨value, fits, _⟩ := written
    exact absurd fits (barred value)

/-- A key keeps a value if no other may be written to it. -/
theorem stable (bound : Footprint allowed before after) {key : κ} {value : ν}
    (only : ∀ other, allowed key other → other = value) (held : before key = some value) :
    after key = some value := by
  cases bound key with
  | inl same => rw [same, held]
  | inr written =>
    obtain ⟨other, fits, now⟩ := written
    rw [now, only other fits]

end Footprint

end Cosign.Go
