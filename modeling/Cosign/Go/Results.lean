import Mathlib.Data.List.Forall2

/-!
# Sequences of calls that can fail

A sequence of calls succeeds exactly when each of them succeeds on what the one before returned
(`bind_eq_value`), and a loop that collects results exactly when the call does on every element
(`mapM_eq_ok`). A loop that passes a state on keeps what each call keeps (`foldlM_invariant`).
-/
namespace Cosign.Go

variable {ε α β γ : Type}

/-- Two calls in sequence succeed with a value exactly when the first succeeds and the second,
on its result, succeeds with that value. -/
theorem bind_eq_value {first : Except ε α} {second : α → Except ε β} {value : β} :
    first >>= second = .ok value ↔ ∃ middle, first = .ok middle ∧ second middle = .ok value := by
  cases first with
  | error err => simp [bind, Except.bind]
  | ok middle => simp [bind, Except.bind]

/-- A loop that collects results succeeds exactly when the call succeeds on every element. -/
theorem mapM_eq_ok {call : α → Except ε β} {items : List α} {results : List β} :
    items.mapM call = .ok results ↔
      List.Forall₂ (fun item result => call item = .ok result) items results := by
  induction items generalizing results with
  | nil =>
    rw [List.mapM_nil, List.forall₂_nil_left_iff]
    exact ⟨fun same => (Except.ok.inj same).symm, fun same => congrArg Except.ok same.symm⟩
  | cons item rest ih =>
    rw [List.mapM_cons, List.forall₂_cons_left_iff, bind_eq_value]
    constructor
    · intro found
      obtain ⟨result, first, found⟩ := found
      obtain ⟨others, after, same⟩ := bind_eq_value.mp found
      exact ⟨result, others, first, ih.mp after, (Except.ok.inj same).symm⟩
    · rintro ⟨result, others, first, after, same⟩
      refine ⟨result, first, bind_eq_value.mpr ⟨others, ih.mpr after, ?_⟩⟩
      rw [same]
      rfl

/-- A loop that collects results returns exactly when the call succeeds on every element. -/
theorem exists_mapM_eq_ok {call : α → Except ε β} {items : List α} :
    (∃ results, items.mapM call = .ok results) ↔
      ∀ item ∈ items, ∃ result, call item = .ok result := by
  simp only [mapM_eq_ok]
  induction items with
  | nil => simp
  | cons item rest ih =>
    rw [List.forall_mem_cons, ← ih]
    constructor
    · rintro ⟨results, related⟩
      obtain ⟨result, others, first, after, -⟩ := List.forall₂_cons_left_iff.mp related
      exact ⟨⟨result, first⟩, others, after⟩
    · rintro ⟨⟨result, first⟩, others, after⟩
      exact ⟨result :: others, .cons first after⟩

/-- A call on what may be missing returns exactly when the call succeeds on what is there. -/
theorem exists_optionMapM_eq_ok {call : α → Except ε β} {item : Option α} :
    (∃ result, item.mapM call = .ok result) ↔
      ∀ value ∈ item, ∃ result, call value = .ok result := by
  cases item with
  | none => simp [pure, Except.pure]
  | some value => cases ran : call value <;> simp [ran, Functor.map, Except.map]

/-- A call on what may be missing succeeds on what is there. -/
theorem optionMapM_eq_ok {call : α → Except ε β} {item : Option α} {result : Option β}
    (ran : item.mapM call = .ok result) :
    Option.Rel (fun value result => call value = .ok result) item result := by
  cases item with
  | none =>
    cases ran
    exact .none
  | some value =>
    cases called : call value with
    | error err => simp [called, Functor.map, Except.map] at ran
    | ok found =>
      have same : result = some found := by simpa [called, Functor.map, Except.map] using ran.symm
      rw [same]
      exact .some called

/-- What may be missing is there after a call exactly when it was there before. -/
theorem optionMapM_isSome {call : α → Except ε β} {item : Option α} {result : Option β}
    (ran : item.mapM call = .ok result) : result.isSome = item.isSome := by
  have related := optionMapM_eq_ok ran
  clear ran
  cases related <;> rfl

/-- A relation along two lists, where what is related depends on the left. -/
theorem forall₂_iff_forall {left : List α} {right : List β} {found held : α → β → Prop}
    {condition : α → Prop} (related : List.Forall₂ found left right)
    (decided : ∀ item ∈ left, ∀ result, found item result → (held item result ↔ condition item)) :
    List.Forall₂ held left right ↔ ∀ item ∈ left, condition item := by
  induction related with
  | nil => simp
  | cons here _ ih =>
    rw [List.forall₂_cons, List.forall_mem_cons, decided _ List.mem_cons_self _ here,
      ih fun item inside => decided item (List.mem_cons_of_mem _ inside)]

/-- What a loop starts with and each of its calls keeps holds where it ends. -/
theorem foldlM_invariant {step : β → α → Except ε β} {inv : β → Prop} {items : List α}
    {state final : β}
    (keeps : ∀ state, inv state → ∀ item ∈ items, ∀ next, step state item = .ok next → inv next)
    (start : inv state) (run : items.foldlM step state = .ok final) : inv final := by
  induction items generalizing state with
  | nil =>
    rw [List.foldlM_nil] at run
    rw [← Except.ok.inj run]
    exact start
  | cons item rest ih =>
    rw [List.foldlM_cons] at run
    obtain ⟨next, stepped, run⟩ := bind_eq_value.mp run
    have reached : inv next := keeps state start item List.mem_cons_self next stepped
    apply ih ?_ reached run
    intro state holds other inside
    exact keeps state holds other (List.mem_cons_of_mem _ inside)

/-- A loop over two lists in sequence succeeds exactly when it does on both. -/
theorem mapM_append_eq_ok {call : α → Except ε β} {left right : List α} {results : List β} :
    (left ++ right).mapM call = .ok results ↔
      ∃ first second, left.mapM call = .ok first ∧ right.mapM call = .ok second ∧
        results = first ++ second := by
  rw [List.mapM_append, bind_eq_value]
  constructor
  · intro found
    obtain ⟨first, before, found⟩ := found
    obtain ⟨second, after, same⟩ := bind_eq_value.mp found
    exact ⟨first, second, before, after, (Except.ok.inj same).symm⟩
  · rintro ⟨first, second, before, after, same⟩
    refine ⟨first, before, bind_eq_value.mpr ⟨second, after, ?_⟩⟩
    rw [same]
    rfl

/-- A loop that collects the results of two calls in sequence is two loops in sequence. -/
theorem mapM_bind_eq_ok {first : α → Except ε β} {second : β → Except ε γ} {items : List α}
    {results : List γ} :
    items.mapM (fun item => first item >>= second) = .ok results ↔
      ∃ middle, items.mapM first = .ok middle ∧ middle.mapM second = .ok results := by
  induction items generalizing results with
  | nil =>
    constructor
    · exact fun done => ⟨[], rfl, done⟩
    · rintro ⟨middle, before, after⟩
      rw [← Except.ok.inj before] at after
      exact after
  | cons item rest ih =>
    simp only [mapM_eq_ok, List.forall₂_cons_left_iff, bind_eq_value] at ih ⊢
    constructor
    · rintro ⟨result, others, ⟨between, before, after⟩, related, same⟩
      obtain ⟨middle, left, right⟩ := ih.mp related
      refine ⟨between :: middle, ⟨between, middle, before, left, rfl⟩, ?_⟩
      rw [same]
      exact .cons after right
    · rintro ⟨whole, ⟨between, middle, before, left, whole_eq⟩, related⟩
      rw [whole_eq] at related
      obtain ⟨result, others, after, right, same⟩ := List.forall₂_cons_left_iff.mp related
      exact ⟨result, others, ⟨between, before, after⟩, ih.mpr ⟨middle, left, right⟩, same⟩

/-- A result with another error is a value where the result is. -/
theorem mapError_eq_ok {ε ε' : Type} {call : Except ε α} {change : ε → ε'} {value : α} :
    call.mapError change = .ok value ↔ call = .ok value := by
  cases call <;> simp [Except.mapError]

end Cosign.Go
