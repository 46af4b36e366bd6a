import Mathlib.Data.List.Forall2
import ParamSql.Name
import ParamSql.Value.Require

/-!
# Outcomes

What reading and compiling return: a result or the first fault. These are the laws by which the
steps of a `do` block over such outcomes are taken apart, and when the requirements on a single
value are met.
-/
namespace ParamSql

namespace Outcome

variable {ε α β γ δ : Type}

@[simp] theorem pure_eq (value : α) : (pure value : Except ε α) = .ok value := rfl

@[simp] theorem ok_bind (value : α) (next : α → Except ε β) :
    (Except.ok value >>= next) = next value := rfl

@[simp] theorem error_bind (fault : ε) (next : α → Except ε β) :
    (Except.error fault >>= next) = .error fault := rfl

/-- A sequence of two steps has a result when the first has one and the second has one from it. -/
theorem bind_eq_ok {step : Except ε α} {next : α → Except ε β} {result : β} :
    (step >>= next) = .ok result ↔ ∃ value, step = .ok value ∧ next value = .ok result := by
  cases step <;> simp

theorem map_eq_ok {f : α → β} {step : Except ε α} {result : β} :
    f <$> step = .ok result ↔ ∃ value, step = .ok value ∧ f value = result := by
  cases step <;> simp

theorem exists_map_eq_ok_iff {f : α → β} {step : Except ε α} :
    (∃ result, f <$> step = .ok result) ↔ ∃ value, step = .ok value := by
  cases step <;> simp

theorem map_eq_error {f : α → β} {step : Except ε α} {fault : ε} :
    f <$> step = .error fault ↔ step = .error fault := by
  cases step <;> simp

/-- A step for each item of a list has a result when each of the steps has one. -/
theorem mapM_eq_ok_iff {step : α → Except ε β} {items : List α} {results : List β} :
    items.mapM step = .ok results ↔
      List.Forall₂ (fun item result => step item = .ok result) items results := by
  induction items generalizing results with
  | nil => simp [eq_comm]
  | cons item rest ih =>
    simp only [List.mapM_cons, bind_eq_ok, pure_eq, Except.ok.injEq, ih, List.forall₂_cons_left_iff]
    constructor
    · rintro ⟨first, here, others, there, rfl⟩
      exact ⟨first, others, here, there, rfl⟩
    · rintro ⟨first, others, here, there, rfl⟩
      exact ⟨first, here, others, there, rfl⟩

/-- A step for each item of a list fails as the first of the steps that fails. -/
theorem mapM_eq_error_iff {step : α → Except ε β} {items : List α} {fault : ε} :
    items.mapM step = .error fault ↔ ∃ before item after, items = before ++ item :: after ∧
      (∀ earlier ∈ before, ∃ result, step earlier = .ok result) ∧ step item = .error fault := by
  constructor
  · intro failed
    induction items with
    | nil => cases failed
    | cons item rest ih =>
      cases here : step item with
      | error other =>
        rw [List.mapM_cons, here, error_bind, Except.error.injEq] at failed
        exact ⟨[], item, rest, rfl, List.forall_mem_nil _, failed ▸ here⟩
      | ok result =>
        rw [List.mapM_cons, here, ok_bind, bind_pure_comp, map_eq_error] at failed
        obtain ⟨before, first, after, rfl, earlier, fails⟩ := ih failed
        exact ⟨item :: before, first, after, rfl,
          List.forall_mem_cons.mpr ⟨⟨result, here⟩, earlier⟩, fails⟩
  · rintro ⟨before, item, after, rfl, earlier, fails⟩
    induction before with
    | nil => rw [List.nil_append, List.mapM_cons, fails, error_bind]
    | cons first before ih =>
      obtain ⟨⟨result, here⟩, others⟩ := List.forall_mem_cons.mp earlier
      rw [List.cons_append, List.mapM_cons, here, ok_bind, ih others, error_bind]

/-- A rewriting of items that each step turns into a rewriting of its result. -/
theorem mapM_map {step : α → Except ε β} {given : γ → Except ε δ} {before : γ → α} {after : δ → β}
    (commutes : ∀ item, step (before item) = after <$> given item) (items : List γ) :
    (items.map before).mapM step = List.map after <$> items.mapM given := by
  induction items with
  | nil => rfl
  | cons item rest ih =>
    simp only [List.map_cons, List.mapM_cons, commutes, ih, bind_map_left, map_bind, map_pure]

/-- The texts of the items of a list, one behind the other. -/
theorem join_mapM_cons (write : α → Except ε String) (item : α) (rest : List α) :
    String.join <$> (item :: rest).mapM write =
      do return (← write item) ++ (← String.join <$> rest.mapM write) := by
  rw [List.mapM_cons]
  cases write item with
  | error fault => rfl
  | ok here =>
    cases rest.mapM write with
    | error fault => rfl
    | ok others => exact congrArg Except.ok String.join_cons

/-- The fault of an outcome, if it has one. -/
def fault? : Except ε α → Option ε
  | .ok _ => none
  | .error fault => some fault

theorem fault?_eq_some_iff {outcome : Except ε α} {fault : ε} :
    fault? outcome = some fault ↔ outcome = .error fault := by
  cases outcome <;> simp [fault?]

theorem fault?_eq_none_iff {outcome : Except ε α} :
    fault? outcome = none ↔ ∃ value, outcome = .ok value := by
  cases outcome <;> simp [fault?]

/-- What is made of the result adds no fault. -/
theorem fault?_then (step : Except ε α) (make : α → β) :
    fault? (do return make (← step)) = fault? step := by
  cases step <;> rfl

/-- Of two steps that do not depend on each other, the first that fails gives the fault. -/
theorem fault?_both (first : Except ε α) (second : Except ε β) (combine : α → β → γ) :
    fault? (do let here ← first; return combine here (← second)) =
      (fault? first).or (fault? second) := by
  cases first <;> cases second <;> rfl

end Outcome

theorem Name.require_eq_ok_iff {role : NameRole} {name result : String} :
    Name.require role name = .ok result ↔ name ≠ "" ∧ result = name := by
  by_cases empty : name = ""
  · simp [Name.require, empty]
  · have present : name.isEmpty = false := by simpa using empty
    simp [Name.require, present, empty, eq_comm]

theorem Name.require_of_ne {role : NameRole} {name : String} (present : name ≠ "") :
    Name.require role name = .ok name :=
  Name.require_eq_ok_iff.mpr ⟨present, rfl⟩

theorem KeyedMap.requireSingle_eq_ok_iff {α : Type} {context : String} {fields : KeyedMap α}
    {entry : String × α} : fields.requireSingle context = .ok entry ↔ fields = ⟨[entry]⟩ := by
  obtain ⟨entries⟩ := fields
  rcases entries with _ | ⟨first, _ | ⟨second, rest⟩⟩ <;> simp [KeyedMap.requireSingle]

namespace Value

variable {context : String} {value : Value}

theorem requireScalar_eq_ok_iff {scalar : Scalar} :
    value.requireScalar context = .ok scalar ↔ value = .scalar scalar := by
  cases value <;> simp [requireScalar]

theorem requireString_eq_ok_iff {text : String} :
    value.requireString context = .ok text ↔ value = .string text := by
  unfold requireString
  split <;> simp_all [Value.string]

theorem requireList_eq_ok_iff {items : List Value} :
    value.requireList context = .ok items ↔ value = .list items := by
  cases value <;> simp [requireList]

theorem requireMap_eq_ok_iff {fields : KeyedMap Value} :
    value.requireMap context = .ok fields ↔ value = .map fields := by
  cases value <;> simp [requireMap]

end Value

end ParamSql
