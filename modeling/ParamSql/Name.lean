import ParamSql.Error

/-!
# Names

A name stands in a statement as an identifier in backticks, exactly as it was written: nothing
in it is escaped. Text that is already quoted or qualified, or that is an expression, stands
for itself.
-/
namespace ParamSql.Name

/-- The character on both sides of an identifier: the backtick. -/
def delimiter : Char := '\x60'

/-- The name as an identifier. -/
def quote (name : String) : String := "`" ++ name ++ "`"

/-- The name, unless it is empty. -/
def require (role : NameRole) (name : String) : Except Error String :=
  if name.isEmpty then .error (.emptyName role) else .ok name

/-- A column reference that is quoted already or names its table. -/
def isQualified (name : String) : Bool :=
  name.toList.any fun c => c = delimiter || c = '.'

/-- A raw expression: a call, a wildcard or a qualified column. -/
def isExpression (name : String) : Bool :=
  name.toList.any fun c => c = '(' || c = ')' || c = '*' || c = '.'

theorem toList_quote (name : String) :
    (quote name).toList = delimiter :: (name.toList ++ [delimiter]) := by
  simp [quote, delimiter]

theorem quote_injective {name other : String} (same : quote name = quote other) :
    name = other := by
  have chars := congrArg String.toList same
  rw [toList_quote, toList_quote] at chars
  exact String.toList_inj.mp (List.append_cancel_right (List.cons.inj chars).2)

theorem isQualified_quote (name : String) : isQualified (quote name) = true := by
  simp [isQualified, toList_quote]

end ParamSql.Name
