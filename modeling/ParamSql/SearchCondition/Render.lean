import ParamSql.Scope
import ParamSql.SearchCondition.Read
import ParamSql.Statement

/-!
# Search conditions as SQL

A condition is written as one parenthesised expression; a group without comparisons is left
out, at every depth. The values are bound in the order of the text.
-/
namespace ParamSql.SearchCondition

/-- Join the clauses of a group and put parentheses around them, if there are any. -/
def enclose (connective : Connective) (clauses : List String) : String :=
  if clauses.isEmpty then "" else "( " ++ connective.separator.intercalate clauses ++ " )"

mutual

/-- The text of a condition, where `column` writes column names and `ambient` is the connective
in force. -/
def clause (column : String → String) (ambient : Connective) : SearchCondition → String
  | .unbound name => column name ++ " = ?"
  | .compared name comparison =>
    column name ++ " " ++ comparison.operator.text ++ " " ++ comparison.placeholder
  | .group connective parts =>
    let active := connective.getD ambient
    enclose active (clauses column active parts)

/-- The texts of the parts of a group, less the empty ones. -/
def clauses (column : String → String) (ambient : Connective) : List SearchCondition → List String
  | [] => []
  | part :: rest =>
    let text := clause column ambient part
    if text.isEmpty then clauses column ambient rest else text :: clauses column ambient rest

end

mutual

/-- The values that a condition binds, in the order of its text. -/
def operands : SearchCondition → List Scalar
  | .unbound _ => []
  | .compared _ comparison => comparison.operands
  | .group _ parts => operandsOfParts parts

/-- The values that the parts of a group bind. -/
def operandsOfParts : List SearchCondition → List Scalar
  | [] => []
  | part :: rest => operands part ++ operandsOfParts rest

end

/-- The condition as a fragment of a statement. -/
def statement (column : String → String) (ambient : Connective) (condition : SearchCondition) :
    Statement :=
  ⟨condition.clause column ambient, condition.operands⟩

/-- Read a condition and write it in a scope, with columns prefixed or not. -/
def compile (scope : Scope) (prefixed : Bool) (ambient : Connective) (spec : Value) :
    Except Error Statement := do
  return (← read spec).statement (scope.column · prefixed) ambient

end ParamSql.SearchCondition
