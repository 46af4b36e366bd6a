import ParamSql.Proofs.Filter.Comparison
import ParamSql.Request
import ParamSql.Statement

/-!
# Rebinding

A rebinding changes the values that a request binds and nothing else: the cells of its rows, and
what the columns of its filter are compared with. Names, operators, operations and modifiers are
no bound values. The rewriting is defined on descriptions as they are given, also on those that
are rejected later.
-/
namespace ParamSql

/-- A change of values that keeps null and the truth values, and turns integers and strings into
integers and strings. -/
structure Rebinding where
  apply : Scalar → Scalar
  null : apply .null = .null
  boolean : ∀ value, apply (.boolean value) = .boolean value
  integer : ∀ value, (apply (.integer value)).Comparable
  string : ∀ text, (apply (.string text)).Comparable

namespace Rebinding

variable (f : Rebinding)

/-- A value in a bound position: only scalars are bound. -/
def cell : Value → Value
  | .scalar value => .scalar (f.apply value)
  | value => value

/-- The fields of a row: every cell is bound. -/
def fields (given : KeyedMap Value) : KeyedMap Value :=
  ⟨given.entries.map fun (column, value) => (column, f.cell value)⟩

def row : Value → Value
  | .map given => .map (f.fields given)
  | value => value

/-- A list of rows. -/
def rows : Value → Value
  | .list items => .list (items.map f.row)
  | value => value

/-- The operand under an operator: the elements of a list under `-in` and `-between`, the
operand itself under an operator of the caller. -/
def operand (operator : String) (value : Value) : Value :=
  match Directive.read operator, value with
  | .ok (some .in), .list items => .list (items.map f.cell)
  | .ok (some .between), .list items => .list (items.map f.cell)
  | .ok none, value => f.cell value
  | _, value => value

/-- What a column is compared with. -/
def comparison : Value → Value
  | .scalar value => .scalar (f.apply value)
  | .map ⟨entries⟩ => .map ⟨entries.map fun (key, value) => (key, f.operand key value)⟩
  | value => value

mutual

/-- A filter. -/
def filter : Value → Value
  | .list items => .list (filterItems items)
  | .map ⟨entries⟩ => .map ⟨filterEntries entries⟩
  | value => value

/-- The items of a list in a filter: a string there is a column. -/
def filterItems : List Value → List Value
  | [] => []
  | item :: rest => filterItem item :: filterItems rest

/-- One item of a list. -/
def filterItem : Value → Value
  | .map ⟨entries⟩ => .map ⟨filterEntries entries⟩
  | item => item

/-- The entries of a map in a filter. -/
def filterEntries : List (String × Value) → List (String × Value)
  | [] => []
  | (key, value) :: rest =>
    let rebound := match Directive.read key with
      | .ok none => f.comparison value
      | .ok (some .and) => filterGroup value
      | .ok (some .or) => filterGroup value
      | _ => value
    (key, rebound) :: filterEntries rest

/-- The list below a connective. -/
def filterGroup : Value → Value
  | .list items => .list (filterItems items)
  | value => value

end

def restriction (given : Restriction) : Restriction :=
  { given with filter := given.filter.map f.filter }

/-- The request with other bound values. -/
def request : Request → Request
  | .insert table row => .insert table (f.row row)
  | .replace table row => .replace table (f.row row)
  | .bulkInsert table rows => .bulkInsert table (f.rows rows)
  | .upsert table row => .upsert table (f.row row)
  | .upsertWith table row operations => .upsertWith table (f.row row) operations
  | .update table row given => .update table (f.row row) (f.restriction given)
  | .select table fields given => .select table fields (f.restriction given)
  | .delete table given => .delete table (f.restriction given)
  | .restrict given prefixed => .restrict (f.restriction given) prefixed

/-- The statement with other parameters behind the same text. -/
def statement (given : Statement) : Statement := ⟨given.text, given.params.map f.apply⟩

theorem statement_append (first second : Statement) :
    f.statement (first ++ second) = f.statement first ++ f.statement second :=
  Statement.ext rfl (List.map_append ..)

theorem statement_ofText (text : String) : f.statement (.ofText text) = .ofText text := rfl

theorem isEmpty_statement (given : Statement) : (f.statement given).isEmpty = given.isEmpty := rfl

end Rebinding

end ParamSql
