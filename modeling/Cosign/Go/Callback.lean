import Cosign.Go.Outcome

/-!
# Functions that call back

What a function does with a callback is the sequence of its calls with their answers. A callback may
keep a state: `History` carries it with the calls made so far, and `Records` says which calls lie
between two histories. Traces compose as the code does (`Records.append`).
-/
namespace Cosign.Go

variable {σ ι ο : Type}

/-- A call of a callback. -/
structure Exchange (ι ο : Type) where
  /-- The arguments. -/
  asked : ι
  /-- The answer. -/
  reply : ο

/-- The state of a callback and the calls made so far. -/
structure History (σ ι ο : Type) where
  /-- What the callback closes over. -/
  state : σ
  /-- The calls, oldest first. -/
  calls : List (Exchange ι ο)

/-- The history after a call. -/
def History.ask (fn : ι → σ → ο × σ) (history : History σ ι ο) (asked : ι) :
    ο × History σ ι ο :=
  let answer := fn asked history.state
  (answer.1, ⟨answer.2, history.calls ++ [⟨asked, answer.1⟩]⟩)

/-- Between two histories exactly the calls of a trace were made. -/
inductive Records (fn : ι → σ → ο × σ) :
    History σ ι ο → List (Exchange ι ο) → History σ ι ο → Prop where
  /-- No call. -/
  | nil (history : History σ ι ο) : Records fn history [] history
  /-- A call and then others. -/
  | cons {history after : History σ ι ο} {trace : List (Exchange ι ο)} (asked : ι)
    (rest : Records fn (history.ask fn asked).2 trace after) :
    Records fn history (⟨asked, (history.ask fn asked).1⟩ :: trace) after

variable {fn : ι → σ → ο × σ} {before middle after : History σ ι ο}
  {trace trace' : List (Exchange ι ο)}

/-- A single call. -/
theorem records_ask (fn : ι → σ → ο × σ) (history : History σ ι ο) (asked : ι) :
    Records fn history [⟨asked, (history.ask fn asked).1⟩] (history.ask fn asked).2 :=
  .cons asked (.nil _)

/-- The answer of a call is that of the callback. -/
theorem ask_reply {asked : ι} {reply : ο} (asks : before.ask fn asked = (reply, after)) :
    (fn asked before.state).1 = reply :=
  congrArg Prod.fst asks

/-- A call whose answer is known. -/
theorem records_of_ask {asked : ι} {reply : ο} (asks : before.ask fn asked = (reply, after)) :
    Records fn before [⟨asked, reply⟩] after := by
  have single := records_ask fn before asked
  rw [asks] at single
  exact single

/-- A trace that begins with a call. -/
theorem records_cons {asked : ι} {reply : ο} :
    Records fn before (⟨asked, reply⟩ :: trace) after ↔
      (before.ask fn asked).1 = reply ∧ Records fn (before.ask fn asked).2 trace after := by
  constructor
  · intro records
    cases records with
    | cons asked rest => exact ⟨rfl, rest⟩
  · intro both
    rw [← both.1]
    exact .cons asked both.2

/-- No call leaves the history as it is. -/
theorem records_nil : Records fn before [] after ↔ after = before := by
  constructor
  · intro records
    cases records
    rfl
  · intro same
    rw [same]
    exact .nil before

/-- Traces compose. -/
theorem records_append : Records fn before (trace ++ trace') after ↔
    ∃ middle, Records fn before trace middle ∧ Records fn middle trace' after := by
  induction trace generalizing before with
  | nil => simp [records_nil]
  | cons exchange rest ih =>
    obtain ⟨asked, reply⟩ := exchange
    rw [List.cons_append, records_cons, ih]
    simp only [records_cons, and_assoc, exists_and_left]

/-- Traces compose. -/
theorem Records.append (first : Records fn before trace middle)
    (second : Records fn middle trace' after) : Records fn before (trace ++ trace') after :=
  records_append.mpr ⟨middle, first, second⟩

/-- The calls of a trace are those that the history has gained. -/
theorem Records.calls (records : Records fn before trace after) :
    after.calls = before.calls ++ trace := by
  induction records with
  | nil history => simp
  | cons asked rest ih =>
    rw [ih]
    simp [History.ask]

/-- The number of calls of a history. -/
theorem Records.length (records : Records fn before trace after) :
    after.calls.length = before.calls.length + trace.length := by
  rw [records.calls, List.length_append]

/-- What holds of every call of a callback holds of those of a trace. -/
theorem Records.all {good : Exchange ι ο → Prop}
    (answers : ∀ asked state, good ⟨asked, (fn asked state).1⟩)
    (records : Records fn before trace after) : ∀ exchange ∈ trace, good exchange := by
  induction records with
  | nil history => exact List.forall_mem_nil _
  | cons asked rest ih => exact List.forall_mem_cons.mpr ⟨answers asked _, ih⟩

/-- What a trace says of its first call. -/
theorem Records.first {asked : ι} {reply : ο}
    (records : Records fn before (⟨asked, reply⟩ :: trace) after) :
    ∃ next, before.ask fn asked = (reply, next) ∧
      next.calls.length = before.calls.length + 1 ∧ Records fn next trace after := by
  obtain ⟨replyIs, rest⟩ := records_cons.mp records
  have asks : before.ask fn asked = (reply, (before.ask fn asked).2) := by
    rw [← replyIs]
  exact ⟨_, asks, (records_of_ask asks).length, rest⟩

end Cosign.Go
