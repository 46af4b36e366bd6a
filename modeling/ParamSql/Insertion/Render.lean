import ParamSql.Insertion.Basic
import ParamSql.Name
import ParamSql.Placeholder
import ParamSql.Statement

/-!
# Insertions as SQL

The columns are listed once and every row has a tuple of placeholders of that width. The values
are bound row after row.
-/
namespace ParamSql

def ColumnUpdate.text : ColumnUpdate → String
  | .overwrite column => Name.quote column ++ " = VALUES(" ++ Name.quote column ++ ")"
  | .operate column operation => Name.quote column ++ " = " ++ Name.quote column ++ " " ++ operation

namespace Insertion

/-- The list of columns. -/
def columnList (columns : List String) : String :=
  "( " ++ ",".intercalate (columns.map Name.quote) ++ " )"

/-- The clause for rows whose key is there already, if there is one. -/
def updateClause : Option (List ColumnUpdate) → String
  | some updates => " ON DUPLICATE KEY UPDATE " ++ ", ".intercalate (updates.map (·.text))
  | none => ""

-- stated by hand: the equations that are generated for this definition are slow to prove
theorem updateClause_some (updates : List ColumnUpdate) :
    updateClause (some updates) =
      " ON DUPLICATE KEY UPDATE " ++ ", ".intercalate (updates.map (·.text)) := rfl

theorem updateClause_none : updateClause none = "" := rfl

/-- The text of an insertion. -/
def text (insertion : Insertion) : String :=
  insertion.verb.keyword ++ " " ++ Name.quote insertion.table ++ " " ++
    columnList insertion.columns ++ " VALUES " ++
    ",".intercalate (insertion.rows.map fun _ => Placeholder.tuple insertion.columns.length) ++
    updateClause insertion.updates

def statement (insertion : Insertion) : Statement := ⟨insertion.text, insertion.rows.flatten⟩

end Insertion

end ParamSql
