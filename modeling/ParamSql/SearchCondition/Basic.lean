import ParamSql.Scalar.Basic
import ParamSql.SearchCondition.Operator

/-!
# Search conditions

The condition of a statement as a tree: comparisons of columns at the leaves, groups of parts
inside. A group that names a connective joins its parts with it; any other group takes the
connective in force around it.
-/
namespace ParamSql

/-- How the parts of a group are joined. -/
inductive Connective where
  | and | or
  deriving DecidableEq, Repr

namespace Connective

def keyword : Connective → String
  | .and => "AND"
  | .or => "OR"

/-- The text between two parts. -/
def separator (connective : Connective) : String := " " ++ connective.keyword ++ " "

end Connective

/-- What a column is compared with. -/
structure Comparison where
  operator : Operator
  operands : List Scalar
  deriving DecidableEq, Repr

def Comparison.placeholder (comparison : Comparison) : String :=
  comparison.operator.placeholder comparison.operands.length

/-- An unbound column is compared with a parameter that the caller supplies elsewhere. -/
inductive SearchCondition where
  | unbound (column : String)
  | compared (column : String) (comparison : Comparison)
  | group (connective : Option Connective) (parts : List SearchCondition)

end ParamSql
