import Mathlib.Data.List.Forall2
import ParamSql.Proofs.Filter.Reading
import ParamSql.SearchCondition.Render

/-!
# The conditions of a filter

A filter contains conditions at every depth: a string in a list is a column whose value is bound
elsewhere, and an entry under a name is a column with what it is compared with. They are listed
here from the description alone, in the order in which they are written. An accepted filter is read
to a tree whose leaves are these conditions, one for one.
-/
namespace ParamSql

namespace Filter

/-- A condition as it is given. -/
inductive Condition where
  | bare (column : String)
  | entry (column : String) (value : Value)

mutual

/-- The conditions of a filter. -/
def conditions : Value → List Condition
  | .list items => itemConditions items
  | .map ⟨entries⟩ => entryConditions entries
  | .scalar _ => []

/-- The conditions of the items of a list. -/
def itemConditions : List Value → List Condition
  | [] => []
  | .scalar (.string column) :: rest => .bare column :: itemConditions rest
  | .map ⟨entries⟩ :: rest => entryConditions entries ++ itemConditions rest
  | _ :: rest => itemConditions rest

/-- The conditions of the entries of a map. -/
def entryConditions : List (String × Value) → List Condition
  | [] => []
  | (key, value) :: rest =>
    match Directive.read key with
    | .ok none => .entry key value :: entryConditions rest
    | .ok (some .and) => groupConditions value ++ entryConditions rest
    | .ok (some .or) => groupConditions value ++ entryConditions rest
    | _ => entryConditions rest

/-- The conditions of the list below a connective. -/
def groupConditions : Value → List Condition
  | .list items => itemConditions items
  | _ => []

end

/-- The column of a condition. -/
def Condition.column : Condition → String
  | .bare column => column
  | .entry column _ => column

/-- The columns that a filter uses. -/
def columns (spec : Value) : List String := (conditions spec).map (·.column)

end Filter

namespace SearchCondition

/-- A leaf of a condition: a column, and its comparison if there is one. -/
structure Leaf where
  column : String
  comparison : Option Comparison
  deriving DecidableEq, Repr

mutual

/-- The leaves of a condition, from left to right. -/
def leaves : SearchCondition → List Leaf
  | .unbound column => [⟨column, none⟩]
  | .compared column comparison => [⟨column, some comparison⟩]
  | .group _ parts => leavesOfParts parts

/-- The leaves of the parts of a group. -/
def leavesOfParts : List SearchCondition → List Leaf
  | [] => []
  | part :: rest => leaves part ++ leavesOfParts rest

end

end SearchCondition

/-- The condition describes the leaf. -/
inductive Filter.Condition.Describes : Filter.Condition → SearchCondition.Leaf → Prop
  | bare {column : String} (present : column ≠ "") : Describes (.bare column) ⟨column, none⟩
  | entry {column : String} {value : Value} {comparison : Comparison} (present : column ≠ "")
      (described : Comparison.Describes value comparison) :
      Describes (.entry column value) ⟨column, some comparison⟩

namespace SearchCondition

/-- The leaves of an accepted filter are its conditions, in order. -/
theorem leaves_of_read {spec : Value} {condition : SearchCondition}
    (success : read spec = .ok condition) :
    List.Forall₂ Filter.Condition.Describes (Filter.conditions spec) condition.leaves := by
  have kept : KeptByReading
      (fun spec condition =>
        List.Forall₂ Filter.Condition.Describes (Filter.conditions spec) condition.leaves)
      (fun items parts =>
        List.Forall₂ Filter.Condition.Describes (Filter.itemConditions items) (leavesOfParts parts))
      (fun entries parts =>
        List.Forall₂ Filter.Condition.Describes (Filter.entryConditions entries)
          (leavesOfParts parts)) :=
    { list := id
      map := id
      noItem := .nil
      bare := fun present later => .cons (.bare present) later
      nested := fun inside later => List.rel_append inside later
      noEntry := .nil
      group := fun {_ connective _ _ _ _} known inside later => by
        cases connective <;> simp only [Filter.entryConditions, known, Connective.directive] <;>
          exact List.rel_append inside later
      column := fun known present described later => by
        simp only [Filter.entryConditions, known]
        exact .cons (.entry present described) later }
  exact kept.of_read success

/-- The leaves of an accepted filter have its columns, in order, and no column is empty. -/
theorem columns_of_read {spec : Value} {condition : SearchCondition}
    (success : read spec = .ok condition) :
    condition.leaves.map (·.column) = Filter.columns spec ∧
      ∀ name ∈ Filter.columns spec, name ≠ "" := by
  have each : List.Forall₂ (fun given leaf => given.column ≠ "" ∧ given.column = leaf.column)
      (Filter.conditions spec) condition.leaves := by
    refine (leaves_of_read success).imp fun given leaf described => ?_
    cases described with
    | bare present => exact ⟨present, rfl⟩
    | entry present compared => exact ⟨present, rfl⟩
  obtain ⟨present, same⟩ := (List.forall₂_and_left _ _).mp each
  rw [← List.forall₂_map_right_iff, ← List.forall₂_map_left_iff, List.forall₂_eq_eq_eq] at same
  exact ⟨same.symm, List.forall_mem_map.mpr present⟩

end SearchCondition

end ParamSql
