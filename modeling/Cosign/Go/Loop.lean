import Cosign.Go.Outcome

/-!
# Loops that keep the elements that pass

A loop over a slice carries a state, keeps the elements that pass a check and goes on whatever the
outcome. If the verdict on an element is the same from every state the loop can be in, the loop is a
filter: what it keeps, and whether it panics, is decided element by element (`Filters.foldlM_kept`,
`Filters.returns_foldlM`). Two loops whose bodies keep a relation between their states agree
(`RunsAlike.foldlM`).
-/
namespace Cosign.Go

variable {σ α : Type}

/-- The verdict is positive. -/
def passes (verdict : Call Bool) : Bool :=
  match verdict with
  | .ok passed => passed
  | .error _ => false

/-- From every state that satisfies `inv`, the body does with an element what `verdict` says of
it: it panics, or it goes on to such a state and keeps the element if the verdict is positive. -/
structure Filters (inv : σ → Prop) (kept : σ → List α) (verdict : α → Call Bool)
    (body : σ → α → Call σ) : Prop where
  /-- The body panics where the verdict does. -/
  panics : ∀ state item panic, inv state → verdict item = .error panic →
    body state item = .error panic
  /-- The body keeps the element exactly on a positive verdict. -/
  keeps : ∀ state item passed, inv state → verdict item = .ok passed →
    ∃ next, body state item = .ok next ∧ inv next ∧
      kept next = kept state ++ if passed then [item] else []

namespace Filters

variable {inv : σ → Prop} {kept : σ → List α} {verdict : α → Call Bool} {body : σ → α → Call σ}

/-- The loop returns exactly when every verdict does. -/
theorem returns_foldlM (filters : Filters inv kept verdict body) {state : σ} (holds : inv state)
    (items : List α) :
    Returns (items.foldlM body state) ↔ ∀ item ∈ items, Returns (verdict item) := by
  induction items generalizing state with
  | nil => simp [pure, Except.pure]
  | cons item rest ih =>
    rw [List.foldlM_cons, returns_bind, List.forall_mem_cons]
    cases said : verdict item with
    | error panic => simp [filters.panics state item panic holds said]
    | ok passed =>
      obtain ⟨next, stepped, holds, -⟩ := filters.keeps state item passed holds said
      simp [stepped, ih holds]

/-- A loop that returns has kept exactly the elements with a positive verdict, in order. -/
theorem foldlM_kept (filters : Filters inv kept verdict body) {state final : σ}
    (holds : inv state) {items : List α} (run : items.foldlM body state = .ok final) :
    inv final ∧ kept final = kept state ++ items.filter fun item => passes (verdict item) := by
  induction items generalizing state with
  | nil =>
    cases run
    simp [holds]
  | cons item rest ih =>
    rw [List.foldlM_cons] at run
    obtain ⟨next, stepped, run⟩ := bind_eq_ok.mp run
    cases said : verdict item with
    | error panic =>
      rw [filters.panics state item panic holds said] at stepped
      cases stepped
    | ok passed =>
      obtain ⟨next', stepped', holds', grown⟩ := filters.keeps state item passed holds said
      cases stepped.symm.trans stepped'
      obtain ⟨holds, kept⟩ := ih holds' run
      refine ⟨holds, ?_⟩
      rw [kept, grown, List.append_assoc, List.filter_cons, said]
      cases passed <;> simp [passes]

end Filters

variable {β : Type}

/-- A loop whose rounds return or panic whatever the state is returns exactly when each round
does. -/
theorem returns_foldlM {body : σ → α → Call σ} {good : α → Prop}
    (step : ∀ state item, Returns (body state item) ↔ good item) {items : List α} {state : σ} :
    Returns (items.foldlM body state) ↔ ∀ item ∈ items, good item := by
  induction items generalizing state with
  | nil => simp [pure, Except.pure]
  | cons item rest ih =>
    rw [List.foldlM_cons, List.forall_mem_cons, returns_bind, ← step state item]
    constructor
    · rintro ⟨next, stepped, returns⟩
      exact ⟨⟨next, stepped⟩, ih.mp returns⟩
    · intro both
      obtain ⟨next, stepped⟩ := both.1
      exact ⟨next, stepped, ih.mpr both.2⟩

/-- A loop that appends what it finds for each element ends with nothing exactly when it starts
with nothing and finds nothing anywhere. -/
theorem foldlM_append_eq_nil {find : α → Call (List β)} {found : List β} {items : List α} :
    (items.foldlM (fun found item => do
      let more ← find item
      .ok (found ++ more)) found : Call (List β)) = .ok [] ↔
      found = [] ∧ ∀ item ∈ items, find item = .ok [] := by
  induction items generalizing found with
  | nil => simp [pure, Except.pure]
  | cons item rest ih =>
    rw [List.foldlM_cons, List.forall_mem_cons]
    cases searched : find item with
    | error panic => simp [bind, Except.bind]
    | ok more =>
      show List.foldlM _ (found ++ more) rest = _ ↔ _
      rw [ih]
      simp [and_assoc]

/-- Two calls panic alike, or return related values. -/
inductive RunsAlike (rel : α → β → Prop) : Call α → Call β → Prop
  /-- Both panic. -/
  | panics (panic : Panic) : RunsAlike rel (.error panic) (.error panic)
  /-- Both return. -/
  | returns {left : α} {right : β} : rel left right → RunsAlike rel (.ok left) (.ok right)

namespace RunsAlike

variable {τ γ δ : Type} {rel : α → β → Prop} {next : γ → δ → Prop}

/-- Calls that agree, each followed by another, agree if those do on related values. -/
theorem andThen {left : Call α} {right : Call β} {after : α → Call γ} {after' : β → Call δ}
    (first : RunsAlike rel left right)
    (second : ∀ value value', rel value value' → RunsAlike next (after value) (after' value')) :
    RunsAlike next (left >>= after) (right >>= after') := by
  cases first with
  | panics panic => exact .panics panic
  | returns related => exact second _ _ related

/-- Loops over the same elements agree if their bodies keep the relation between their states. -/
theorem foldlM {rel : σ → τ → Prop} {body : σ → α → Call σ} {body' : τ → α → Call τ}
    {items : List α}
    (step : ∀ item ∈ items, ∀ state state', rel state state' →
      RunsAlike rel (body state item) (body' state' item))
    {state : σ} {state' : τ} (start : rel state state') :
    RunsAlike rel (items.foldlM body state) (items.foldlM body' state') := by
  induction items generalizing state state' with
  | nil => exact .returns start
  | cons item rest ih =>
    rw [List.foldlM_cons, List.foldlM_cons]
    apply andThen (step item List.mem_cons_self state state' start)
    intro reached reached' related
    apply ih _ related
    exact fun other inside => step other (List.mem_cons_of_mem _ inside)

end RunsAlike

end Cosign.Go
