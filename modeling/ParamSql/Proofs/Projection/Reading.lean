import ParamSql.Projection.Read
import ParamSql.Proofs.Outcome

/-!
# Runs of a reading

A reading of a projection returns a result or stops at a fault, and either way it leaves the quoted
aliases that it has met behind those that were collected before. These are the laws by which its
steps are taken apart: what it returns, and what it collects.
-/
namespace ParamSql.Projection.Reading

variable {α β : Type}

/-- The reading ends in the result, from some aliases that were collected before. -/
def Returns (reading : Reading α) (result : α) : Prop :=
  ∃ before after, reading.run.run before = (.ok result, after)

theorem Returns.of_pure {value result : α} (returns : Returns (pure value) result) :
    value = result := by
  obtain ⟨before, after, ran⟩ := returns
  cases ran
  rfl

theorem Returns.of_lift {outcome : Except Error α} {result : α}
    (returns : Returns (liftM outcome) result) : outcome = .ok result := by
  obtain ⟨before, after, ran⟩ := returns
  cases outcome <;> cases ran
  rfl

theorem Returns.of_bind {reading : Reading α} {next : α → Reading β} {result : β}
    (returns : Returns (reading >>= next) result) :
    ∃ value, reading.Returns value ∧ (next value).Returns result := by
  obtain ⟨before, after, ran⟩ := returns
  rw [ExceptT.run_bind, StateT.run_bind] at ran
  cases first : reading.run.run before with
  | mk outcome middle =>
    rw [first] at ran
    cases outcome with
    | error fault => cases ran
    | ok value => exact ⟨value, ⟨before, middle, first⟩, middle, after, ran⟩

theorem not_returns_throw {fault : Error} {result : α} : ¬ Returns (throw fault) result := by
  rintro ⟨before, after, ran⟩
  cases ran

/-- The reading ends in the result, whatever aliases were collected before. -/
def Yields (reading : Reading α) (result : α) : Prop :=
  ∀ before, ∃ after, reading.run.run before = (.ok result, after)

theorem yields_pure (value : α) : Yields (pure value) value := fun before => ⟨before, rfl⟩

theorem yields_lift {outcome : Except Error α} {result : α} (success : outcome = .ok result) :
    Yields (liftM outcome) result := by
  intro before
  obtain rfl := success
  exact ⟨before, rfl⟩

theorem yields_modify (text : String) :
    Yields (modify (· ++ [text]) : Reading PUnit) PUnit.unit :=
  fun before => ⟨before ++ [text], rfl⟩

theorem Yields.bind {reading : Reading α} {next : α → Reading β} {value : α} {result : β}
    (here : reading.Yields value) (there : (next value).Yields result) :
    (reading >>= next).Yields result := by
  intro before
  obtain ⟨middle, first⟩ := here before
  obtain ⟨after, second⟩ := there middle
  refine ⟨after, ?_⟩
  rw [ExceptT.run_bind, StateT.run_bind, first]
  exact second

/-- A reading that returns a result collects exactly these texts, in order; one that stops at a
fault collects the first ones of them. -/
def Collects (reading : Reading α) (texts : List String) : Prop :=
  ∀ before, ∃ collected, (reading.run.run before).2 = before ++ collected ∧
    collected <+: texts ∧ ∀ result, (reading.run.run before).1 = .ok result → collected = texts

theorem collects_pure (value : α) : Collects (pure value) [] :=
  fun before => ⟨[], (List.append_nil before).symm, List.nil_prefix, fun _ _ => rfl⟩

theorem collects_lift (outcome : Except Error α) : Collects (liftM outcome) [] := by
  intro before
  refine ⟨[], ?_, List.nil_prefix, fun _ _ => rfl⟩
  cases outcome <;> exact (List.append_nil before).symm

theorem collects_throw (fault : Error) (texts : List String) :
    Collects (throw fault : Reading α) texts :=
  fun before => ⟨[], (List.append_nil before).symm, List.nil_prefix, fun _ ok => nomatch ok⟩

theorem collects_modify (text : String) :
    Collects (modify (· ++ [text]) : Reading PUnit) [text] :=
  fun _ => ⟨[text], rfl, List.prefix_rfl, fun _ _ => rfl⟩

theorem Collects.bind {reading : Reading α} {next : α → Reading β} {first others : List String}
    (here : reading.Collects first)
    (there : ∀ value, reading.Returns value → (next value).Collects others) :
    (reading >>= next).Collects (first ++ others) := by
  intro before
  obtain ⟨collected, left, within, complete⟩ := here before
  rw [ExceptT.run_bind, StateT.run_bind]
  cases ran : reading.run.run before with
  | mk outcome middle =>
    rw [ran] at left complete
    obtain rfl : middle = before ++ collected := left
    cases outcome with
    | error fault =>
      exact ⟨collected, rfl, within.trans (List.prefix_append first others), fun _ ok => nomatch ok⟩
    | ok value =>
      obtain rfl := complete value rfl
      obtain ⟨more, right, behind, final⟩ :=
        there value ⟨before, _, ran⟩ (before ++ collected)
      refine ⟨collected ++ more, right.trans (List.append_assoc ..), ?_, ?_⟩
      · exact (List.prefix_append_right_inj collected).mpr behind
      · intro result ok
        rw [final result ok]

end ParamSql.Projection.Reading
