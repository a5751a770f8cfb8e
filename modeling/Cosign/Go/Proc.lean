import Cosign.Go.Outcome
import Mathlib.Order.Defs.Unbundled

/-!
# Procedures that change a state and can fail

A function that talks to a registry or a disk changes it step by step and returns early on an error;
what it has done stays done. `Proc` is such a function on an explicit state. Two kinds of facts are
proved from those about the parts: where a run can lead (`Within`), and what holds after a run that
returned (`Ensures`).
-/
namespace Cosign.Go

/-- A procedure on a state: it returns a value or an error, and leaves a state. -/
def Proc (σ α : Type) : Type := σ → Except GoError α × σ

namespace Proc

variable {σ α β : Type}

/-- Return a value. -/
def done (value : α) : Proc σ α := fun state => (.ok value, state)

/-- Return an error. -/
def fail (err : GoError) : Proc σ α := fun state => (.error err, state)

/-- Go on with the value that a procedure returns. -/
def andThen (first : Proc σ α) (second : α → Proc σ β) : Proc σ β := fun state =>
  match first state with
  | (.ok value, next) => second value next
  | (.error err, next) => (.error err, next)

/-- Procedures in sequence; an error ends the sequence. -/
instance : Monad (Proc σ) where
  pure := done
  bind := andThen

/-- Sequences can be regrouped. -/
instance : LawfulMonad (Proc σ) :=
  LawfulMonad.mk' (Proc σ)
    (fun prog => by
      funext state
      show prog.andThen (fun value => done value) state = prog state
      unfold andThen
      rcases prog state with ⟨outcome, next⟩
      cases outcome <;> rfl)
    (fun value next => rfl)
    (fun first second third => by
      funext state
      show (first.andThen second).andThen third state =
        first.andThen (fun value => (second value).andThen third) state
      unfold andThen
      rcases first state with ⟨outcome, next⟩
      cases outcome <;> rfl)

/-- A call without effect on the state. -/
def ofExcept : Except GoError α → Proc σ α
  | .ok value => done value
  | .error err => fail err

/-- `errors.Wrap` of the error that a procedure returns. -/
def wrap (prog : Proc σ α) (message : String) : Proc σ α := fun state =>
  match prog state with
  | (.ok value, next) => (.ok value, next)
  | (.error err, next) => (.error (err.wrap message), next)

/-- What a procedure returns without an error is not changed by wrapping its errors. -/
theorem wrap_eq_ok {prog : Proc σ α} {message : String} {state final : σ} {value : α} :
    prog.wrap message state = (.ok value, final) ↔ prog state = (.ok value, final) := by
  unfold wrap
  rcases prog state with ⟨outcome, next⟩
  cases outcome <;> simp

/-- Two procedures in sequence return a value exactly when the first returns and the second, from
where the first has led, returns that value. -/
theorem bind_eq_ok {first : Proc σ α} {second : α → Proc σ β} {state final : σ} {value : β} :
    (first >>= second) state = (.ok value, final) ↔
      ∃ middle next, first state = (.ok middle, next) ∧
        second middle next = (.ok value, final) := by
  show first.andThen second state = _ ↔ _
  unfold andThen
  cases reached : first state with
  | mk outcome next =>
    cases outcome with
    | error err => simp
    | ok middle =>
      constructor
      · exact fun after => ⟨middle, next, rfl, after⟩
      · rintro ⟨other, state', same, after⟩
        cases same
        exact after

/-- A run that returns leads somewhere. -/
theorem exists_eq_ok {prog : Proc σ α} {state : σ} {value : α}
    (returned : (prog state).1 = .ok value) : ∃ final, prog state = (.ok value, final) :=
  ⟨(prog state).2, Prod.ext returned rfl⟩

/-- A sequence goes on from where its first procedure has led. -/
theorem bind_of_ok {first : Proc σ α} {second : α → Proc σ β} {state next : σ} {value : α}
    (ran : first state = (.ok value, next)) : (first >>= second) state = second value next := by
  show first.andThen second state = second value next
  rw [andThen, ran]

/-- A sequence ends where its first procedure fails. -/
theorem bind_of_error {first : Proc σ α} {second : α → Proc σ β} {state : σ} {err : GoError}
    (failed : (first state).1 = .error err) :
    (first >>= second) state = (.error err, (first state).2) := by
  show first.andThen second state = _
  unfold andThen
  cases reached : first state with
  | mk outcome next =>
    rw [reached] at failed
    subst failed
    rfl

/-- An error at the end leaves the state as it is. -/
theorem bind_fail_state {first : Proc σ α} {err : GoError} {state : σ} :
    ((first >>= fun _ => (fail err : Proc σ β)) state).2 = (first state).2 := by
  show (first.andThen _ state).2 = _
  unfold andThen
  rcases first state with ⟨outcome, next⟩
  cases outcome <;> rfl

/-- Every run of the procedure, whether it returns or fails, leads from a state to a related
one. -/
def Within (rel : σ → σ → Prop) (prog : Proc σ α) : Prop :=
  ∀ state, rel state (prog state).2

/-- A run that returns, from a state with the first property, leads to a state with the second. -/
def Ensures (pre : σ → Prop) (prog : Proc σ α) (post : α → σ → Prop) : Prop :=
  ∀ state, pre state → ∀ value final, prog state = (.ok value, final) → post value final

section Within

variable {rel : σ → σ → Prop} {prog : Proc σ α} {next : α → Proc σ β}

/-- Returning a value stays in place. -/
theorem within_done [Std.Refl rel] (value : α) : Within rel (done value : Proc σ α) :=
  fun state => refl_of rel state

/-- Returning an error stays in place. -/
theorem within_fail [Std.Refl rel] (err : GoError) : Within rel (fail err : Proc σ α) :=
  fun state => refl_of rel state

/-- A call without effect stays in place. -/
theorem within_ofExcept [Std.Refl rel] (call : Except GoError α) :
    Within rel (ofExcept call : Proc σ α) := by
  cases call with
  | ok value => exact within_done value
  | error err => exact within_fail err

/-- Procedures in sequence lead where one after the other leads. Of the second it need only be
known for values that the first returns. -/
theorem within_bind_returns [IsTrans σ rel] {returns : α → Prop} (first : Within rel prog)
    (values : Ensures (fun _ => True) prog fun value _ => returns value)
    (second : ∀ value, returns value → Within rel (next value)) : Within rel (prog >>= next) := by
  intro state
  show rel state (prog.andThen next state).2
  have before : rel state (prog state).2 := first state
  unfold andThen
  cases reached : prog state with
  | mk outcome middle =>
    rw [reached] at before
    cases outcome with
    | error err => exact before
    | ok value =>
      have returned := values state trivial value middle reached
      exact trans_of rel before (second value returned middle)

/-- Procedures in sequence lead where one after the other leads. -/
theorem within_bind [IsTrans σ rel] (first : Within rel prog)
    (second : ∀ value, Within rel (next value)) : Within rel (prog >>= next) :=
  within_bind_returns first (fun _ _ _ _ _ => trivial) fun value _ => second value

/-- A loop leads where its rounds lead. -/
theorem within_forM [Std.Refl rel] [IsTrans σ rel] {items : List α} {body : α → Proc σ PUnit}
    (each : ∀ item ∈ items, Within rel (body item)) : Within rel (items.forM body) := by
  induction items with
  | nil => exact within_done _
  | cons item rest ih =>
    refine within_bind (each item List.mem_cons_self) fun _ => ?_
    exact ih fun other inside => each other (List.mem_cons_of_mem _ inside)

end Within

section Ensures

variable {pre mid : σ → Prop} {prog : Proc σ α} {next : α → Proc σ β} {post : β → σ → Prop}

/-- What a sequence ensures: the second procedure ensures it after what the first ensures. -/
theorem ensures_bind {between : α → σ → Prop} (first : Ensures pre prog between)
    (second : ∀ value, Ensures (between value) (next value) post) :
    Ensures pre (prog >>= next) post := by
  intro state holds value final ran
  obtain ⟨middle, reached, before, after⟩ := bind_eq_ok.mp ran
  exact second middle reached (first state holds middle reached before) value final after

/-- A loop over elements ensures of every element what its round ensures, if later rounds keep
it. -/
theorem ensures_forM {rel : σ → σ → Prop} {items : List α} {body : α → Proc σ PUnit}
    {post : α → σ → Prop} [Std.Refl rel] [IsTrans σ rel]
    (stable : ∀ item ∈ items, ∀ before after, rel before after → post item before →
      post item after)
    (each : ∀ item ∈ items, Within rel (body item) ∧
      Ensures (fun _ => True) (body item) fun _ => post item) :
    Ensures (fun _ => True) (items.forM body) fun _ state => ∀ item ∈ items, post item state := by
  induction items with
  | nil => exact fun state _ value final _ item inside => absurd inside List.not_mem_nil
  | cons item rest ih =>
    intro state _ value final ran
    obtain ⟨first, middle, before, after⟩ := bind_eq_ok.mp ran
    have others : ∀ other ∈ rest, _ := fun other inside =>
      each other (List.mem_cons_of_mem _ inside)
    have kept : rel middle final := by
      have led := within_forM (fun other inside => (others other inside).1) middle
      rw [show rest.forM body middle = (.ok value, final) from after] at led
      exact led
    refine List.forall_mem_cons.mpr ⟨?_, ?_⟩
    · apply stable item List.mem_cons_self middle final kept
      exact (each item List.mem_cons_self).2 state trivial first middle before
    · refine ih (fun other inside => ?_) others middle trivial value final after
      exact stable other (List.mem_cons_of_mem _ inside)

end Ensures

end Proc

end Cosign.Go
