import ParamSql.Projection.Render
import ParamSql.Proofs.Projection.Reading
import ParamSql.Proofs.Recasing.Basic

/-!
# Recasing a projection

A recased projection is read to the same projection, and the same aliases are collected on the way,
also on the way to a fault.
-/
namespace ParamSql.Projection

namespace Reading

variable {α β : Type}

/-- Whatever was collected before, both end in the same result or in faults of one category, and
both collect the same. -/
def Alike (reading other : Reading α) : Prop :=
  ∀ before, Outcome.Alike Eq (reading.run.run before).1 (other.run.run before).1 ∧
    (other.run.run before).2 = (reading.run.run before).2

theorem Alike.refl (reading : Reading α) : reading.Alike reading := fun _ => ⟨.refl _, rfl⟩

theorem Alike.lift {outcome other : Except Error α} (same : Outcome.Alike Eq outcome other) :
    Alike (liftM outcome) (liftM other) := by
  intro before
  cases same with
  | ok same => exact ⟨.ok same, rfl⟩
  | error same => exact ⟨.error same, rfl⟩

theorem Alike.bind {reading other : Reading α} {next after : α → Reading β}
    (here : reading.Alike other)
    (there : ∀ value, reading.Returns value → (next value).Alike (after value)) :
    (reading >>= next).Alike (other >>= after) := by
  intro before
  obtain ⟨outcomes, states⟩ := here before
  rw [ExceptT.run_bind, ExceptT.run_bind, StateT.run_bind, StateT.run_bind]
  cases first : reading.run.run before with
  | mk outcome middle =>
    cases second : other.run.run before with
    | mk another between =>
      rw [first, second] at outcomes states
      obtain rfl : between = middle := states
      cases outcomes with
      | ok same =>
        cases same
        exact there _ ⟨before, between, first⟩ between
      | error same => exact ⟨.error same, rfl⟩

end Reading

open Value Reading

theorem alike_readAlias {value changed : Value} (recased : Recased value changed) :
    (readAlias value).Alike (readAlias changed) :=
  (Alike.lift (recased.requireString _)).bind fun _ _ => .refl _

mutual

/-- A recased projection describes the same projection. -/
theorem alike_read : ∀ {spec other : Value}, Recased spec other → (read spec).Alike (read other)
  | _, _, .scalar value => .refl _
  | _, _, .list inside => (alike_readItems inside).bind fun _ _ => .refl _
  | _, _, .map inside => (alike_readParts inside).bind fun _ _ => .refl _

theorem alike_readItems : ∀ {items others : List Value}, RecasedItems items others →
    (readItems items).Alike (readItems others)
  | _, _, .nil => .refl _
  | _, _, .cons first later =>
    (alike_read first).bind fun _ _ => (alike_readItems later).bind fun _ _ => .refl _

theorem alike_readParts : ∀ {entries others : List (String × Value)},
    RecasedEntries entries others → (readParts entries).Alike (readParts others)
  | _, _, .nil => .refl _
  | _, _, @RecasedEntries.cons key respelled value changed rest others spelled first later => by
    have behind (part : ItemPart Projection) :
        Reading.Alike (do return part :: (← readParts rest))
          (do return part :: (← readParts others)) :=
      (alike_readParts later).bind fun _ _ => .refl _
    rw [readParts, readParts, spelled.read_eq]
    refine (Alike.refl _).bind fun directive known => ?_
    cases directive with
    | none =>
      obtain rfl := spelled.eq_of_name known.of_lift
      refine (Alike.refl _).bind fun function _ => (alike_read first).bind fun argument _ => ?_
      exact behind (.call function argument)
    | some directive =>
      cases directive with
      | as => exact (alike_readAlias first).bind fun name _ => behind (.aliased name)
      | _ => exact .refl _

end

/-- A recased projection is written in the same way, and the same aliases are declared. -/
theorem alike_compile (scope : Scope) {spec other : Value} (recased : Recased spec other) :
    Outcome.Alike Eq (compile scope spec).1 (compile scope other).1 ∧
      (compile scope other).2 = (compile scope spec).2 := by
  obtain ⟨outcomes, states⟩ := alike_read recased []
  exact ⟨outcomes.map (text scope), congrArg scope.declareAll states⟩

end ParamSql.Projection
