import ParamSql.Scope
import ParamSql.TableRef.Read

/-!
# Table references as SQL

A table is followed by its alias and then by its joins, each nested target in its place. The
column of a join condition is prefixed like every column of the statement.
-/
namespace ParamSql

def JoinCondition.text (scope : Scope) (condition : JoinCondition) : String :=
  "ON " ++ scope.column condition.column true ++ " = " ++ condition.expression

namespace TableRef

mutual

/-- The table reference in a scope. -/
def text (scope : Scope) : TableRef → String
  | .base table => Name.quote table ++ " " ++ Name.quote scope.defaultAlias
  | .aliased table name => Name.quote table ++ " " ++ Name.quote name
  | .joined table joins =>
    Name.quote table ++ " " ++ Name.quote scope.defaultAlias ++ joinsText scope joins

/-- The joins, one after the other. A missing part of a join leaves no text. -/
def joinsText (scope : Scope) : List (Join TableRef) → String
  | [] => ""
  | ⟨target, condition⟩ :: rest =>
    targetText scope target ++ " " ++ (condition.map (·.text scope)).getD "" ++
      joinsText scope rest

/-- The target of a join behind its keywords. -/
def targetText (scope : Scope) : Option (JoinKind × TableRef) → String
  | none => ""
  | some (kind, target) => " " ++ kind.keyword ++ " JOIN " ++ text scope target

end

/-- Read a table reference and write it in a scope. -/
def compile (scope : Scope) (spec : Value) : Except Error String := do
  return (← read spec).text scope

/-- Read joins and write them in a scope. -/
def compileJoins (scope : Scope) (spec : Value) : Except Error String := do
  return joinsText scope (← readJoins spec)

end TableRef

end ParamSql
