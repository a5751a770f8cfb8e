import Mathlib.Logic.Basic

/-!
# Errors, results and panics of Go calls

A nil `error` is `none` here: a pair `(value, err)` of the source is a pair with an optional error,
and a function whose value is never read beside an error is an `Except`. A panic, from which no
caller in the modelled packages recovers, is carried by `Call`.
-/
namespace Cosign.Go

/-- A non-nil value of the `error` interface; `message` is what `Error()` returns. -/
structure GoError where
  /-- Text of the error. -/
  message : String
  deriving DecidableEq, Repr

/-- `errors.Wrap` of a non-nil error: the message is put before the text of its cause. -/
def GoError.wrap (err : GoError) (message : String) : GoError :=
  ⟨message ++ ": " ++ err.message⟩

/-- `errors.Wrap` as the interface sees it: wrapping a nil error gives nil. -/
def wrap (err : Option GoError) (message : String) : Option GoError :=
  err.map fun cause => cause.wrap message

/-- A wrapped error is nil exactly when its cause is. -/
@[simp] theorem wrap_eq_none {err : Option GoError} {message : String} :
    wrap err message = none ↔ err = none := by
  cases err <;> simp [wrap]

/-- Reasons for a run-time panic. -/
inductive Panic where
  /-- A type assertion without the second result, on a value of another type. -/
  | typeAssertion
  /-- A nil pointer was followed. -/
  | nilDereference
  /-- A slice was indexed outside its length. -/
  | indexOutOfRange
  /-- A call of `panic` with an error. -/
  | raised (err : GoError)
  deriving DecidableEq, Repr

/-- A call: it panics or it returns a value. -/
abbrev Call (α : Type) : Type := Except Panic α

variable {α β : Type}

/-- The call returns a value; it does not panic. -/
def Returns (call : Call α) : Prop := ∃ value, call = .ok value

/-- Whether a call returns can be evaluated. -/
instance (call : Call α) : Decidable (Returns call) :=
  match call with
  | .ok value => .isTrue ⟨value, rfl⟩
  | .error _ => .isFalse nofun

/-- A returned value is a return. -/
@[simp] theorem returns_ok (value : α) : Returns (.ok value : Call α) := ⟨value, rfl⟩

/-- A panic is no return. -/
@[simp] theorem not_returns_error (panic : Panic) : ¬Returns (.error panic : Call α) := by
  rintro ⟨value, same⟩
  cases same

/-- A sequence of two calls returns a value exactly when the first returns and the second,
given what it returned, returns that value. -/
theorem bind_eq_ok {first : Call α} {second : α → Call β} {value : β} :
    first >>= second = .ok value ↔ ∃ middle, first = .ok middle ∧ second middle = .ok value := by
  cases first with
  | ok middle => simp [bind, Except.bind]
  | error panic => simp [bind, Except.bind]

/-- A sequence of two calls returns exactly when the first returns and so does the second on
what the first returned. -/
theorem returns_bind {first : Call α} {second : α → Call β} :
    Returns (first >>= second) ↔ ∃ middle, first = .ok middle ∧ Returns (second middle) := by
  cases first with
  | ok middle => simp [bind, Except.bind]
  | error panic => simp [bind, Except.bind]

/-- Following a pointer: nil panics. -/
def deref : Option α → Call α
  | some value => .ok value
  | none => .error .nilDereference

/-- Following a pointer returns exactly what it points to. -/
@[simp] theorem deref_eq_ok {pointer : Option α} {value : α} :
    deref pointer = .ok value ↔ pointer = some value := by
  cases pointer <;> simp [deref]

/-- A pointer that is not nil is followed. -/
@[simp] theorem deref_some_bind (value : α) (next : α → Call β) :
    (deref (some value) >>= next) = next value :=
  rfl

end Cosign.Go
