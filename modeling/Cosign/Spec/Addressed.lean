import Mathlib.Logic.Function.Basic

/-!
# Content-addressed stores

A store keeps every value under an address that is computed from the value. A value that is put
there is held (`holds_put`), and stays held when others are put that do not collide with it
(`Holds.put`). `putNew` writes nothing if the address is taken.
-/
namespace Cosign.Spec

variable {κ ν : Type} [DecidableEq κ] (address : ν → κ)

/-- The store holds the value under its address. -/
def Holds (store : κ → Option ν) (value : ν) : Prop := store (address value) = some value

/-- Two of some values that have one address are the same. -/
def Collisionless (values : List ν) : Prop :=
  ∀ left ∈ values, ∀ right ∈ values, address left = address right → left = right

/-- Put a value under its address. -/
def put (store : κ → Option ν) (value : ν) : κ → Option ν :=
  Function.update store (address value) (some value)

/-- Put a value under its address if nothing is there. -/
def putNew (store : κ → Option ν) (value : ν) : κ → Option ν :=
  if (store (address value)).isSome then store else put address store value

/-- What the store has under the addresses of some values are these values. -/
def Agrees (values : List ν) (store : κ → Option ν) : Prop :=
  ∀ value ∈ values, ∀ held, store (address value) = some held → held = value

variable {address} {values : List ν} {store : κ → Option ν} {value other : ν}

/-- A value that is put there is held. -/
theorem holds_put : Holds address (put address store value) value := by
  unfold Holds put
  exact Function.update_self ..

/-- A value that is held stays held when a value is put there that does not collide with it. -/
theorem Holds.put (held : Holds address store value)
    (apart : address value = address other → value = other) :
    Holds address (put address store other) value := by
  unfold Holds Spec.put
  by_cases same : address value = address other
  · rw [same, Function.update_self, apart same]
  · rw [Function.update_of_ne same]
    exact held

/-- A value is held after it was put there if nothing was, or if it was there. -/
theorem holds_putNew (agrees : Agrees address values store) (listed : value ∈ values) :
    Holds address (putNew address store value) value := by
  unfold putNew
  cases there : store (address value) with
  | none => exact holds_put
  | some held =>
    have same := agrees value listed held there
    rw [same] at there
    exact there

/-- A value that is held stays held when one is put where nothing is. -/
theorem Holds.putNew (held : Holds address store value) :
    Holds address (putNew address store other) value := by
  unfold Spec.putNew
  cases there : store (address other) with
  | some _ => exact held
  | none =>
    apply held.put
    intro same
    rw [Holds, same, there] at held
    cases held

/-- A store that agrees with some values agrees with them after one of them is put there. -/
theorem Agrees.putNew (agrees : Agrees address values store)
    (collisionless : Collisionless address values) (listed : value ∈ values) :
    Agrees address values (putNew address store value) := by
  intro other inValues held found
  unfold Spec.putNew at found
  split at found
  · exact agrees other inValues held found
  · unfold Spec.put at found
    by_cases same : address other = address value
    · rw [same, Function.update_self] at found
      cases found
      exact (collisionless other inValues _ listed same).symm
    · rw [Function.update_of_ne same] at found
      exact agrees other inValues held found

end Cosign.Spec
