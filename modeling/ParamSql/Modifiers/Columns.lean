import ParamSql.Directive.Key
import ParamSql.Modifiers.Clause
import ParamSql.Scope
import ParamSql.Value.Require

/-!
# Grouping and ordering columns

A clause that lists columns takes a name or nested lists of names, and flattens them. When it
orders, a map with a direction sets it for every column below, behind the directions that the
columns have already.
-/
namespace ParamSql

inductive Direction where
  | ascending | descending
  deriving DecidableEq, Repr

def Direction.keyword : Direction → String
  | .ascending => "ASC"
  | .descending => "DESC"

/-- A column of a clause with its directions, the innermost first. -/
structure ListedColumn where
  name : String
  directions : List Direction
  deriving DecidableEq, Repr

namespace ListedColumn

/-- Put a direction behind those of the column. -/
def directed (direction : Direction) (column : ListedColumn) : ListedColumn :=
  ⟨column.name, column.directions ++ [direction]⟩

def text (scope : Scope) (column : ListedColumn) : String :=
  column.directions.foldl (fun written direction => written ++ " " ++ direction.keyword)
    (scope.column column.name true)

end ListedColumn

/-- The direction that a key of an ordering map names. -/
def Direction.read (key : String) : Except Error Direction := do
  match ← Directive.read key with
  | some .asc => return .ascending
  | some .desc => return .descending
  | some other => .error (.misplacedDirective other .orderBy)
  | none => .error (.unknownDirection key)

namespace ColumnClause

mutual

/-- The columns that a value lists, in order. -/
def read (clause : ColumnClause) : Value → Except Error (List ListedColumn)
  | .scalar value => do
    let name ← (Value.scalar value).requireString "column"
    return [⟨← Name.require .column name, []⟩]
  | .list items => readItems clause items
  | .map ⟨entries⟩ =>
    match clause with
    | .groupBy => .error .groupingByMap
    | .orderBy => readDirected clause entries

/-- The columns that the items of a list list, one item after the other. -/
def readItems (clause : ColumnClause) : List Value → Except Error (List ListedColumn)
  | [] => .ok []
  | item :: rest => do
    let columns ← read clause item
    return columns ++ (← readItems clause rest)

/-- The columns below the one entry of an ordering map. -/
def readDirected (clause : ColumnClause) :
    List (String × Value) → Except Error (List ListedColumn)
  | [(key, value)] => do
    let direction ← Direction.read key
    return (← read clause value).map (·.directed direction)
  | entries => .error (.notOneEntry clause.keyword entries.length)

end

/-- The clause in a scope. It needs at least one column. -/
def text (clause : ColumnClause) (scope : Scope) (columns : List ListedColumn) :
    Except Error String :=
  if columns.isEmpty then .error (.noColumns clause)
  else .ok (" " ++ clause.keyword ++ " " ++ ",".intercalate (columns.map (·.text scope)))

/-- Read the columns of a clause and write it in a scope. -/
def compile (clause : ColumnClause) (scope : Scope) (spec : Value) : Except Error String := do
  clause.text scope (← clause.read spec)

end ColumnClause

end ParamSql
