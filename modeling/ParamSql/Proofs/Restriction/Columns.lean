import ParamSql.Proofs.Supplied.Request

/-!
# The columns of a restriction

The scope matters to the tail of a statement only through the way in which the columns of the filter
and of the modifiers are written. Two scopes that write these columns alike lead to the same tail.
-/
namespace ParamSql

namespace SearchCondition

section

variable {column other : String → String}

mutual

/-- The text of a condition depends on how the columns of its leaves are written. -/
theorem clause_congr : ∀ (ambient : Connective) {condition : SearchCondition},
    (∀ leaf ∈ condition.leaves, column leaf.column = other leaf.column) →
      condition.clause column ambient = condition.clause other ambient
  | _, .unbound name, same => by
    rw [clause, clause, same ⟨name, none⟩ List.mem_cons_self]
  | _, .compared name comparison, same => by
    rw [clause, clause, same ⟨name, some comparison⟩ List.mem_cons_self]
  | ambient, .group connective parts, same => by
    simp only [clause, clauses_congr (connective.getD ambient) same]

theorem clauses_congr : ∀ (ambient : Connective) {parts : List SearchCondition},
    (∀ leaf ∈ leavesOfParts parts, column leaf.column = other leaf.column) →
      clauses column ambient parts = clauses other ambient parts
  | _, [], _ => rfl
  | ambient, part :: rest, same => by
    obtain ⟨here, there⟩ := List.forall_mem_append.mp same
    simp only [clauses, clause_congr ambient here, clauses_congr ambient there]

end

end

theorem compile_congr {scope other : Scope} {prefixed : Bool} {spec : Value}
    (same : ∀ name ∈ Filter.columns spec,
      scope.column name prefixed = other.column name prefixed) (ambient : Connective) :
    compile scope prefixed ambient spec = compile other prefixed ambient spec := by
  cases success : read spec with
  | error fault => simp [compile, success]
  | ok condition =>
    rw [← (columns_of_read success).1, List.forall_mem_map] at same
    have written : condition.clause (scope.column · prefixed) ambient =
        condition.clause (other.column · prefixed) ambient := clause_congr ambient same
    simp [compile, success, statement, written]

end SearchCondition

theorem ColumnClause.compile_congr {scope other : Scope} {spec : Value}
    (same : ∀ name ∈ spec.strings, scope.column name true = other.column name true)
    (clause : ColumnClause) : clause.compile scope spec = clause.compile other spec := by
  cases success : clause.read spec with
  | error fault => simp [compile, success]
  | ok columns =>
    have written : ∀ column ∈ columns, column.text scope = column.text other := by
      intro column member
      rw [ListedColumn.text, ListedColumn.text,
        same column.name (name_of_read success column member).1]
    simp [compile, success, text, List.map_congr_left written]

theorem Modifiers.compile_congr {scope other : Scope} {modifiers : Modifiers}
    (same : ∀ name ∈ modifiers.columns, scope.column name true = other.column name true) :
    modifiers.compile scope = modifiers.compile other := by
  obtain ⟨inGroup, inOrder⟩ := List.forall_mem_append.mp same
  have grouped : optional (ColumnClause.groupBy.compile scope) modifiers.groupBy =
      optional (ColumnClause.groupBy.compile other) modifiers.groupBy := by
    cases given : modifiers.groupBy with
    | none => rfl
    | some spec => exact ColumnClause.compile_congr (by simpa [given] using inGroup) .groupBy
  have ordered : optional (ColumnClause.orderBy.compile scope) modifiers.orderBy =
      optional (ColumnClause.orderBy.compile other) modifiers.orderBy := by
    cases given : modifiers.orderBy with
    | none => rfl
    | some spec => exact ColumnClause.compile_congr (by simpa [given] using inOrder) .orderBy
  rw [compile, compile, grouped, ordered]

/-- Scopes that write the columns of a restriction alike lead to the same tail. -/
theorem Restriction.compile_congr {scope other : Scope} {given : Restriction}
    (same : ∀ name ∈ given.columns, ∀ prefixed,
      scope.column name prefixed = other.column name prefixed) (prefixed : Bool) :
    given.compile scope prefixed = given.compile other prefixed := by
  obtain ⟨inFilter, inModifiers⟩ := List.forall_mem_append.mp same
  have filtered : compileFilter scope prefixed given.filter =
      compileFilter other prefixed given.filter := by
    cases filter : given.filter with
    | none => rfl
    | some spec =>
      have columns : ∀ name ∈ Filter.columns spec,
          scope.column name prefixed = other.column name prefixed := by
        intro name member
        exact inFilter name (by simpa [filter] using member) prefixed
      rw [compileFilter, compileFilter, SearchCondition.compile_congr columns]
  have modified := Modifiers.compile_congr fun name member => inModifiers name member true
  rw [compile, compile, filtered, modified]

end ParamSql
