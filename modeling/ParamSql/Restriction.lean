import ParamSql.Modifiers.Render
import ParamSql.SearchCondition.Render

/-!
# Restrictions

The tail of a statement: the condition that its rows have to meet, if one is given, and the
modifiers. A condition without comparisons leaves no text, so that it restricts nothing.
-/
namespace ParamSql

structure Restriction where
  filter : Option Value
  modifiers : Modifiers
  deriving DecidableEq

namespace Restriction

/-- No condition and no modifiers. -/
def none : Restriction := ⟨.none, .none⟩

/-- The condition behind its keyword, or nothing. -/
def whereClause (condition : Statement) : Statement :=
  if condition.isEmpty then .empty else .ofText " WHERE " ++ condition

/-- The part of the tail that the filter gives. -/
def compileFilter (scope : Scope) (prefixed : Bool) : Option Value → Except Error Statement
  | some filter => do return whereClause (← SearchCondition.compile scope prefixed .and filter)
  | .none => .ok .empty

/-- The tail in a scope. The columns of the filter are prefixed or not; those of the modifiers
always are. -/
def compile (scope : Scope) (prefixed : Bool) (restriction : Restriction) :
    Except Error Statement := do
  let condition ← compileFilter scope prefixed restriction.filter
  return condition ++ .ofText (← restriction.modifiers.compile scope)

/-- A statement without restrictions has no tail. -/
theorem compile_none (scope : Scope) (prefixed : Bool) : none.compile scope prefixed = .ok .empty :=
  rfl

end Restriction

end ParamSql
