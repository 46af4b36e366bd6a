import ParamSql.Proofs.Recasing.Basic
import ParamSql.SearchCondition.Render

/-!
# Recasing a filter

A recased filter is read to the same condition. Below a directive only the list matters, and the
keys that are texts of their own, the columns and the operators of the caller, are no directives.
-/
namespace ParamSql

open Outcome Value

namespace Comparison

theorem alike_comparables (column : String) {items others : List Value}
    (recased : RecasedItems items others) :
    Alike Eq (comparables column items) (comparables column others) := by
  induction items generalizing others with
  | nil =>
    cases recased
    exact .refl _
  | cons item rest ih =>
    cases recased with
    | cons first later =>
      simp only [comparables, List.mapM_cons]
      refine ((first.requireScalar column).bind_eq _).bind fun value _ same => ?_
      cases same
      exact (ih later).bind_eq _

/-- What a column is compared with: scalars are the same, and a map holds one operator. -/
theorem alike_read (column : String) {spec other : Value} (recased : Recased spec other) :
    Alike Eq (read column spec) (read column other) := by
  cases recased with
  | scalar value => exact .refl _
  | list => exact .error rfl
  | map inside =>
    cases inside with
    | nil => exact .refl _
    | @cons key respelled operand changed rest others spelled recased later =>
      cases later with
      | cons => exact .error rfl
      | nil =>
        simp only [read, KeyedMap.requireSingle, ok_bind, spelled.read_eq]
        cases known : Directive.read key with
        | error fault => exact .refl _
        | ok directive =>
          cases directive with
          | none =>
            obtain rfl := spelled.eq_of_name known
            exact (recased.requireScalar respelled).bind_eq _
          | some directive =>
            cases directive with
            | «in» | between =>
              refine (recased.requireList _).bind fun items others listed => ?_
              exact (alike_comparables column listed).bind_eq _
            | _ => exact .refl _

end Comparison

namespace SearchCondition

mutual

/-- A recased filter describes the same condition. -/
theorem alike_read : ∀ {spec other : Value}, Recased spec other → Alike Eq (read spec) (read other)
  | _, _, .scalar value => .refl _
  | _, _, .list inside => (alike_readItems inside).bind_eq _
  | _, _, .map inside => (alike_readEntries inside).bind_eq _

theorem alike_readItems : ∀ {items others : List Value}, RecasedItems items others →
    Alike Eq (readItems items) (readItems others)
  | _, _, .nil => .refl _
  | _, _, .cons first later => by
    refine (alike_readItem first).bind fun part _ same => ?_
    cases same
    exact (alike_readItems later).bind_eq _

theorem alike_readItem : ∀ {item other : Value}, Recased item other →
    Alike Eq (readItem item) (readItem other)
  | _, _, .scalar value => .refl _
  | _, _, .list _ => .refl _
  | _, _, .map inside => (alike_readEntries inside).bind_eq _

theorem alike_readEntries : ∀ {entries others : List (String × Value)},
    RecasedEntries entries others → Alike Eq (readEntries entries) (readEntries others)
  | _, _, .nil => .refl _
  | _, _, @RecasedEntries.cons key respelled value changed rest others spelled first later => by
    have behind (part : SearchCondition) :
        Alike Eq (do return part :: (← readEntries rest))
          (do return part :: (← readEntries others)) :=
      (alike_readEntries later).bind_eq _
    simp only [readEntries, spelled.read_eq]
    cases known : Directive.read key with
    | error fault => exact .refl _
    | ok directive =>
      cases directive with
      | none =>
        obtain rfl := spelled.eq_of_name known
        refine (Alike.refl (Name.require .column respelled)).bind fun column _ same => ?_
        cases same
        refine (Comparison.alike_read column first).bind fun comparison _ same => ?_
        cases same
        exact behind (.compared column comparison)
      | some directive =>
        cases directive with
        | and | or =>
          refine (alike_readGroup key respelled _ first).bind fun part _ same => ?_
          cases same
          exact behind part
        | _ => exact .refl _

/-- The key of a group shows only in the fault of one that is no list. -/
theorem alike_readGroup (key respelled : String) (connective : Connective) :
    ∀ {value changed : Value}, Recased value changed →
      Alike Eq (readGroup key connective value) (readGroup respelled connective changed)
  | _, _, .scalar value => .error rfl
  | _, _, .list inside => (alike_readItems inside).bind_eq _
  | _, _, .map _ => .error rfl

end

theorem alike_compile (scope : Scope) (prefixed : Bool) (ambient : Connective)
    {spec other : Value} (recased : Recased spec other) :
    Alike Eq (compile scope prefixed ambient spec) (compile scope prefixed ambient other) :=
  (alike_read recased).bind_eq _

end SearchCondition

end ParamSql
