import ParamSql.Name
import ParamSql.Value.Require

/-!
# Assignments

The columns that an update sets, with their new values. They are read from a keyed map, entry
by entry: the name of a column, then its value.
-/
namespace ParamSql

structure Assignment where
  column : String
  value : Scalar
  deriving DecidableEq, Repr

namespace Assignment

/-- The assignment that an entry of a map gives. -/
def ofEntry : String × Value → Except Error Assignment
  | (key, value) => do
    let column ← Name.require .column key
    return ⟨column, ← value.requireScalar key⟩

/-- The assignments that a map gives, in its order. -/
def readAll (row : Value) : Except Error (List Assignment) := do
  (← row.requireMap "update row").entries.mapM ofEntry

/-- The column and the placeholder for its value. -/
def text (assignment : Assignment) : String := Name.quote assignment.column ++ " = ?"

end Assignment

end ParamSql
