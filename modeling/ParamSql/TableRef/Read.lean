import ParamSql.Directive.Key
import ParamSql.Name
import ParamSql.TableRef.Basic
import ParamSql.Value.Require

/-!
# Reading table references

A string is a table, a pair is a table with its alias, and a map with one entry is a table with
a join or a list of joins. In a join the last target and the last condition count.
-/
namespace ParamSql

/-- The condition of a join: a column and an expression. -/
def JoinCondition.read (value : Value) : Except Error JoinCondition := do
  match ← value.requireList Directive.on.key with
  | [left, right] =>
    let column ← Name.require .joinColumn (← left.requireString "-on column")
    return ⟨column, ← right.requireString "-on target"⟩
  | other => .error (.joinConditionLength other.length)

namespace TableRef

mutual

/-- The table reference that a value describes. -/
def read : Value → Except Error TableRef
  | .scalar value => do
    let name ← (Value.scalar value).requireString "table"
    return .base (← Name.require .table name)
  | .list [entity, name] => do
    let table ← Name.require .table (← entity.requireString "table name")
    return .aliased table (← Name.require .tableAlias (← name.requireString "table alias"))
  | .list items => .error (.tableListLength items.length)
  | .map ⟨[(name, joins)]⟩ => do
    let table ← Name.require .table name
    return .joined table (← readJoins joins)
  | .map fields => .error (.notOneEntry "table with joins" fields.size)

/-- One join map or a list of them. -/
def readJoins : Value → Except Error (List (Join TableRef))
  | .list items => readJoinItems items
  | .map ⟨entries⟩ => do return [← readJoin .empty entries]
  | .scalar value => .error (.joinForm value.kind)

/-- A list of join maps. -/
def readJoinItems : List Value → Except Error (List (Join TableRef))
  | [] => .ok []
  | .map ⟨entries⟩ :: rest => do
    let join ← readJoin .empty entries
    return join :: (← readJoinItems rest)
  | value :: _ => .error (.wrongForm "join" .keyedMap value.kind)

/-- The entries of a join map, on top of what the entries before them gave. -/
def readJoin (join : Join TableRef) : List (String × Value) → Except Error (Join TableRef)
  | [] => .ok join
  | (key, value) :: rest => do
    match ← Directive.read key with
    | some .inner => do
      let target ← read value
      readJoin ⟨some (.inner, target), join.condition⟩ rest
    | some .left => do
      let target ← read value
      readJoin ⟨some (.left, target), join.condition⟩ rest
    | some .on => do
      let condition ← JoinCondition.read value
      readJoin ⟨join.target, some condition⟩ rest
    | some other => .error (.misplacedDirective other .join)
    | none => .error (.unexpectedJoinKey key)

end

end TableRef

end ParamSql
