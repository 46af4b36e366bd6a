import ParamSql.Insertion.Basic
import ParamSql.Name
import ParamSql.Value.Require

/-!
# Reading insertions

A row is a keyed map from columns to scalars. The first row of several fixes the columns and
their order, and each later one has to agree with it. The name of the table is checked first,
then the rows, one after the other.
-/
namespace ParamSql.Insertion

/-- The columns of a row. -/
def columnNames (row : KeyedMap Value) : Except Error (List String) :=
  row.keys.mapM (Name.require .column)

/-- The values of a row. -/
def cellValues (row : KeyedMap Value) : Except Error (List Scalar) :=
  row.entries.mapM fun (column, value) => value.requireScalar column

/-- The columns and the values of a row that stands alone or first. Every name is checked
before any value. -/
def readFirstRow (row : Value) : Except Error (List String × List Scalar) := do
  let fields ← row.requireMap "row"
  let columns ← columnNames fields
  return (columns, ← cellValues fields)

/-- The values of the row at an index, which has to have the columns of the first row. -/
def readLaterRow (columns : List String) (index : Nat) (row : Value) :
    Except Error (List Scalar) := do
  let fields ← row.requireMap "bulk insert row"
  if fields.size ≠ columns.length then .error (.rowWidth index fields.size columns.length)
  else if fields.keys ≠ columns then .error (.rowColumns index)
  else cellValues fields

/-- The values of the rows from an index on. -/
def readLaterRows (columns : List String) : Nat → List Value → Except Error (List (List Scalar))
  | _, [] => .ok []
  | index, row :: rest => do
    let values ← readLaterRow columns index row
    return values :: (← readLaterRows columns (index + 1) rest)

/-- The insertion of one row. -/
def ofRow (verb : InsertVerb) (table : String) (row : Value) : Except Error Insertion := do
  let table ← Name.require .table table
  let (columns, values) ← readFirstRow row
  return ⟨verb, table, columns, [values], none⟩

/-- The insertion of a list of rows. -/
def ofRows (table : String) (rows : Value) : Except Error Insertion := do
  let table ← Name.require .table table
  match rows with
  | .list [] => .error .noRows
  | .list (first :: rest) =>
    let (columns, values) ← readFirstRow first
    return ⟨.insert, table, columns, values :: (← readLaterRows columns 1 rest), none⟩
  | other => .error (.rowsForm other.kind)

/-- The operation that an entry of a map gives for a column. -/
def readOperation : String × Value → Except Error ColumnUpdate
  | (key, value) => do
    let column ← Name.require .column key
    return .operate column (← value.requireString key)

/-- The operations that a map gives, one for each of its columns. -/
def readOperations (operations : Value) : Except Error (List ColumnUpdate) := do
  (← operations.requireMap "upsert operations").entries.mapM readOperation

end ParamSql.Insertion
