import ParamSql.Modifiers.Basic
import ParamSql.Modifiers.Columns
import ParamSql.Modifiers.Count

/-!
# Modifiers as SQL

The clauses are written in the order GROUP BY, ORDER BY, LIMIT, OFFSET; the first that cannot be
written decides the error.
-/
namespace ParamSql.Modifiers

/-- A clause that may be absent. -/
def optional (compile : Value → Except Error String) : Option Value → Except Error String
  | some value => compile value
  | .none => .ok ""

/-- The clauses in a scope. -/
def compile (scope : Scope) (modifiers : Modifiers) : Except Error String := do
  let grouped ← optional (ColumnClause.groupBy.compile scope) modifiers.groupBy
  let ordered ← optional (ColumnClause.orderBy.compile scope) modifiers.orderBy
  let limited ← optional CountClause.limit.compile modifiers.rows
  let skipped ← optional CountClause.offset.compile modifiers.offset
  return grouped ++ ordered ++ limited ++ skipped

end ParamSql.Modifiers
