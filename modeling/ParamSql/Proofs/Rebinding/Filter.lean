import ParamSql.Proofs.Rebinding.Basic
import ParamSql.SearchCondition.Render

/-!
# Rebinding the values of a filter

Reading a filter commutes with a rebinding: the same conditions are read, with the operands
rebound, or the same fault is found. The text of a condition depends on the number of its operands
only, so it stays as it is.
-/
namespace ParamSql

namespace Rebinding

variable (f : Rebinding)

/-- The operands of a comparison rebound. -/
def operands (comparison : Comparison) : Comparison :=
  ⟨comparison.operator, comparison.operands.map f.apply⟩

mutual

/-- The operands of a condition rebound, at every depth. -/
def condition : SearchCondition → SearchCondition
  | .unbound column => .unbound column
  | .compared column comparison => .compared column (f.operands comparison)
  | .group connective parts => .group connective (conditions parts)

/-- The operands of the parts of a group rebound. -/
def conditions : List SearchCondition → List SearchCondition
  | [] => []
  | part :: rest => condition part :: conditions rest

end

theorem comparable_apply (column : String) (value : Scalar) :
    Comparison.comparable column (f.apply value) =
      f.apply <$> Comparison.comparable column value := by
  cases value with
  | null => rw [f.null]; rfl
  | boolean value => rw [f.boolean]; rfl
  | integer value => exact Comparison.comparable_eq_ok_iff.mpr ⟨f.integer value, rfl⟩
  | string text => exact Comparison.comparable_eq_ok_iff.mpr ⟨f.string text, rfl⟩

theorem requireScalar_cell (context : String) (value : Value) :
    (f.cell value).requireScalar context = f.apply <$> value.requireScalar context := by
  cases value <;> rfl

theorem comparables_cells (column : String) (items : List Value) :
    Comparison.comparables column (items.map f.cell) =
      List.map f.apply <$> Comparison.comparables column items := by
  refine Outcome.mapM_map (fun item => ?_) items
  simp only [requireScalar_cell, comparable_apply, bind_map_left, map_bind]

theorem requireSingle_map (context : String) (rebound : String × Value → String × Value)
    (entries : List (String × Value)) :
    KeyedMap.requireSingle context ⟨entries.map rebound⟩ =
      rebound <$> KeyedMap.requireSingle context ⟨entries⟩ := by
  cases entries with
  | nil => rfl
  | cons entry rest =>
    cases rest with
    | nil => rfl
    | cons second rest => simp [KeyedMap.requireSingle]

theorem requireList_operand {key : String} (value : Value) (context : String)
    (listed : Directive.read key = .ok (some .in) ∨ Directive.read key = .ok (some .between)) :
    (f.operand key value).requireList context =
      List.map f.cell <$> value.requireList context := by
  rcases listed with listed | listed <;> cases value <;> simp [operand, listed, Value.requireList]

theorem read_comparison (column : String) (value : Value) :
    Comparison.read column (f.comparison value) = f.operands <$> Comparison.read column value := by
  cases value with
  | scalar value =>
    simp only [comparison, Comparison.read, comparable_apply, bind_map_left, map_bind, map_pure]
    rfl
  | list items => rfl
  | map fields =>
    obtain ⟨entries⟩ := fields
    simp only [comparison, Comparison.read, requireSingle_map, bind_map_left, map_bind]
    refine bind_congr fun entry => ?_
    obtain ⟨key, value⟩ := entry
    dsimp only
    cases known : Directive.read key with
    | error fault => rfl
    | ok directive =>
      cases directive with
      | none =>
        have plain : f.operand key value = f.cell value := by simp [operand, known]
        simp only [Outcome.ok_bind, plain, requireScalar_cell, comparable_apply, bind_map_left,
          map_bind, map_pure]
        rfl
      | some directive =>
        cases directive with
        | «in» =>
          simp only [Outcome.ok_bind, f.requireList_operand value _ (.inl known), bind_map_left,
            comparables_cells, map_bind]
          refine bind_congr fun items => bind_congr fun values => ?_
          rw [List.isEmpty_map]
          split <;> rfl
        | between =>
          simp only [Outcome.ok_bind, f.requireList_operand value _ (.inr known), bind_map_left,
            comparables_cells, map_bind]
          refine bind_congr fun items => bind_congr fun values => ?_
          rw [List.length_map]
          split <;> rfl
        | _ => rfl

mutual

/-- The condition that a rebound filter describes is the condition of the filter, rebound. -/
theorem read_filter : ∀ spec : Value,
    SearchCondition.read (f.filter spec) = f.condition <$> SearchCondition.read spec
  | .scalar value => rfl
  | .list items => by
    simp only [filter, SearchCondition.read, readItems_filter items, bind_map_left, map_bind,
      map_pure, condition]
  | .map ⟨entries⟩ => by
    simp only [filter, SearchCondition.read, readEntries_filter entries, bind_map_left, map_bind,
      map_pure, condition]

theorem readItems_filter : ∀ items : List Value,
    SearchCondition.readItems (f.filterItems items) =
      f.conditions <$> SearchCondition.readItems items
  | [] => rfl
  | item :: rest => by
    simp only [filterItems, SearchCondition.readItems, readItem_filter item, readItems_filter rest,
      bind_map_left, map_bind, map_pure, conditions]

theorem readItem_filter : ∀ item : Value,
    SearchCondition.readItem (f.filterItem item) = f.condition <$> SearchCondition.readItem item
  | .scalar value => by
    simp only [filterItem, SearchCondition.readItem, map_bind, map_pure, condition]
  | .list items => rfl
  | .map ⟨entries⟩ => by
    simp only [filterItem, SearchCondition.readItem, readEntries_filter entries, bind_map_left,
      map_bind, map_pure, condition]

theorem readEntries_filter : ∀ entries : List (String × Value),
    SearchCondition.readEntries (f.filterEntries entries) =
      f.conditions <$> SearchCondition.readEntries entries
  | [] => rfl
  | (key, value) :: rest => by
    simp only [filterEntries, SearchCondition.readEntries, map_bind]
    cases known : Directive.read key with
    | error fault => rfl
    | ok directive =>
      simp only [Outcome.ok_bind]
      cases directive with
      | none =>
        simp only [read_comparison, readEntries_filter rest, bind_map_left, map_bind,
          pure_bind, map_pure, conditions, condition]
      | some directive =>
        cases directive with
        | and =>
          simp only [readGroup_filter key .and value, readEntries_filter rest, bind_map_left,
            map_bind, map_pure, conditions]
        | or =>
          simp only [readGroup_filter key .or value, readEntries_filter rest, bind_map_left,
            map_bind, map_pure, conditions]
        | _ => rfl

theorem readGroup_filter (key : String) (connective : Connective) : ∀ value : Value,
    SearchCondition.readGroup key connective (f.filterGroup value) =
      f.condition <$> SearchCondition.readGroup key connective value
  | .scalar value => rfl
  | .list items => by
    simp only [filterGroup, SearchCondition.readGroup, readItems_filter items, bind_map_left,
      map_bind, map_pure, condition]
  | .map ⟨entries⟩ => rfl

end

theorem placeholder_operands (comparison : Comparison) :
    (f.operands comparison).placeholder = comparison.placeholder := by
  simp only [Comparison.placeholder, operands, List.length_map]

section

variable (column : String → String)

mutual

/-- The text of a condition does not depend on its operands. -/
theorem clause_condition : ∀ (ambient : Connective) (given : SearchCondition),
    (f.condition given).clause column ambient = given.clause column ambient
  | _, .unbound _ => rfl
  | _, .compared name comparison => by
    simp only [condition, SearchCondition.clause, placeholder_operands]
    rfl
  | ambient, .group connective parts => by
    simp only [condition, SearchCondition.clause, clauses_conditions _ parts]

theorem clauses_conditions : ∀ (ambient : Connective) (parts : List SearchCondition),
    SearchCondition.clauses column ambient (f.conditions parts) =
      SearchCondition.clauses column ambient parts
  | _, [] => rfl
  | ambient, part :: rest => by
    simp only [conditions, SearchCondition.clauses, clause_condition ambient part,
      clauses_conditions ambient rest]

end

end

mutual

theorem operands_condition : ∀ given : SearchCondition,
    (f.condition given).operands = given.operands.map f.apply
  | .unbound _ => rfl
  | .compared _ _ => rfl
  | .group _ parts => operandsOfParts_conditions parts

theorem operandsOfParts_conditions : ∀ parts : List SearchCondition,
    SearchCondition.operandsOfParts (f.conditions parts) =
      (SearchCondition.operandsOfParts parts).map f.apply
  | [] => rfl
  | part :: rest => by
    simp only [conditions, SearchCondition.operandsOfParts, operands_condition part,
      operandsOfParts_conditions rest, List.map_append]

end

/-- A rebound filter compiles to the same text with rebound parameters, or fails in the same
way. -/
theorem compile_filter (scope : Scope) (prefixed : Bool) (ambient : Connective) (spec : Value) :
    SearchCondition.compile scope prefixed ambient (f.filter spec) =
      f.statement <$> SearchCondition.compile scope prefixed ambient spec := by
  simp only [SearchCondition.compile, read_filter, bind_map_left, map_bind, map_pure,
    SearchCondition.statement, clause_condition, operands_condition, statement]

theorem whereClause_statement (given : Statement) :
    Restriction.whereClause (f.statement given) = f.statement (Restriction.whereClause given) := by
  unfold Restriction.whereClause
  rw [isEmpty_statement]
  split
  · rfl
  · rw [statement_append, statement_ofText]

theorem compileFilter_filter (scope : Scope) (prefixed : Bool) (given : Option Value) :
    Restriction.compileFilter scope prefixed (given.map f.filter) =
      f.statement <$> Restriction.compileFilter scope prefixed given := by
  cases given with
  | none => rfl
  | some spec =>
    simp only [Option.map_some, Restriction.compileFilter, compile_filter, bind_map_left, map_bind,
      map_pure, whereClause_statement]

/-- Rebinding the filter of a restriction rebinds the parameters of the tail. -/
theorem compile_restriction (scope : Scope) (prefixed : Bool) (given : Restriction) :
    (f.restriction given).compile scope prefixed =
      f.statement <$> given.compile scope prefixed := by
  simp only [restriction, Restriction.compile, compileFilter_filter, bind_map_left, map_bind,
    map_pure, statement_append, statement_ofText]

end Rebinding

end ParamSql
