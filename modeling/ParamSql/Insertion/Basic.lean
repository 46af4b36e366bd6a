import ParamSql.Scalar.Basic

/-!
# Insertions

Rows that go into a table under one list of columns, and what happens when the key of a row is
there already.
-/
namespace ParamSql

/-- Whether a row whose key is there already is refused or takes the place of the old one. -/
inductive InsertVerb where
  | insert | replace
  deriving DecidableEq, Repr

def InsertVerb.keyword : InsertVerb → String
  | .insert => "INSERT INTO"
  | .replace => "REPLACE INTO"

/-- What happens to a column of the old row when the key of a row is there already: it takes
the new value, or a raw operation changes it. -/
inductive ColumnUpdate where
  | overwrite (column : String)
  | operate (column operation : String)
  deriving DecidableEq, Repr

structure Insertion where
  verb : InsertVerb
  table : String
  columns : List String
  rows : List (List Scalar)
  updates : Option (List ColumnUpdate)
  deriving DecidableEq, Repr

/-- The insertion that gives every column of an old row its new value. -/
def Insertion.overwriting (insertion : Insertion) : Insertion :=
  { insertion with updates := some (insertion.columns.map .overwrite) }

end ParamSql
