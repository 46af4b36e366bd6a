import ParamSql.Placeholder

/-!
# Comparison operators

An operator is known by its text alone: one that a caller spells like a built-in operator is
that operator.
-/
namespace ParamSql

structure Operator where
  text : String
  deriving DecidableEq, Repr

namespace Operator

def equals : Operator := ⟨"="⟩

def membership : Operator := ⟨"IN"⟩

def range : Operator := ⟨"BETWEEN"⟩

/-- The placeholders on the right of the operator for an operand of `count` values. -/
def placeholder (operator : Operator) (count : Nat) : String :=
  if operator = membership then Placeholder.tuple count
  else if operator = range then "? AND ?"
  else "?"

end Operator

end ParamSql
