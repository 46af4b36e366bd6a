import ParamSql.Directive.Key
import ParamSql.Name
import ParamSql.SearchCondition.Basic
import ParamSql.Value.Require

/-!
# Reading search conditions

A map is a group of its entries: `-and` and `-or` hold groups, any other key is a column with
what it is compared with. A list is a group of columns without a value and of maps. Whether a
description is accepted, and the values that it binds, depend on the description alone.
-/
namespace ParamSql

namespace Comparison

/-- Only integers and strings are compared with columns. -/
def comparable (column : String) : Scalar → Except Error Scalar
  | .integer value => .ok (.integer value)
  | .string text => .ok (.string text)
  | other => .error (.incomparable column other.kind)

/-- The comparable scalars of an operand list. -/
def comparables (column : String) (items : List Value) : Except Error (List Scalar) :=
  items.mapM fun item => do comparable column (← item.requireScalar column)

/-- A scalar stands for equality; a map holds one operator with its operand. -/
def read (column : String) : Value → Except Error Comparison
  | .scalar value => do return ⟨.equals, [← comparable column value]⟩
  | .map fields => do
    let (key, operand) ← fields.requireSingle column
    match ← Directive.read key with
    | some .in =>
      let values ← comparables column (← operand.requireList Directive.in.key)
      if values.isEmpty then .error (.emptyMembership column) else .ok ⟨.membership, values⟩
    | some .between =>
      let values ← comparables column (← operand.requireList Directive.between.key)
      if values.length = 2 then .ok ⟨.range, values⟩
      else .error (.rangeLength column values.length)
    | some other => .error (.misplacedDirective other .columnCondition)
    | none => do return ⟨⟨key⟩, [← comparable column (← operand.requireScalar key)]⟩
  | .list _ => .error (.conditionIsList column)

end Comparison

namespace SearchCondition

mutual

/-- The condition that a value describes. -/
def read : Value → Except Error SearchCondition
  | .list items => do return .group none (← readItems items)
  | .map ⟨entries⟩ => do return .group none (← readEntries entries)
  | .scalar value => .error (.predicateForm value.kind)

/-- The parts that the items of a list describe. -/
def readItems : List Value → Except Error (List SearchCondition)
  | [] => .ok []
  | item :: rest => do
    let part ← readItem item
    return part :: (← readItems rest)

/-- An item of a list: a column name or a map. -/
def readItem : Value → Except Error SearchCondition
  | .scalar value => do
    let name ← (Value.scalar value).requireString "predicate column"
    return .unbound (← Name.require .column name)
  | .map ⟨entries⟩ => do return .group none (← readEntries entries)
  | .list _ => .error .nestedPredicateList

/-- The parts that the entries of a map describe. -/
def readEntries : List (String × Value) → Except Error (List SearchCondition)
  | [] => .ok []
  | (key, value) :: rest => do
    let part ← match ← Directive.read key with
      | some .and => readGroup key .and value
      | some .or => readGroup key .or value
      | some other => .error (.misplacedDirective other .predicateColumn)
      | none => do
        let column ← Name.require .column key
        pure (.compared column (← Comparison.read column value))
    return part :: (← readEntries rest)

/-- The list below a key that names a connective. -/
def readGroup (key : String) (connective : Connective) : Value → Except Error SearchCondition
  | .list items => do return .group (some connective) (← readItems items)
  | value => .error (.wrongForm key .orderedList value.kind)

end

end SearchCondition

end ParamSql
