import ParamSql.Scalar.Basic

/-!
# Values

A description of a query is a tree of values. Containers are classified once, when they are
built: one whose keys are exactly the positions "0", "1", … in order is an ordered list, any
other is a keyed map. What reads a description only ever looks at this classification.
-/
namespace ParamSql

inductive Value where
  | scalar (value : Scalar)
  | list (items : List Value)
  | map (fields : KeyedMap Value)

namespace Value

def null : Value := .scalar .null

def string (text : String) : Value := .scalar (.string text)

def integer (value : Int64) : Value := .scalar (.integer value)

/-- A keyed map as a value: a list when its keys are positions, which includes no keys. -/
def ofMap (map : KeyedMap Value) : Value :=
  if map.hasPositionalKeys then .list map.values else .map map

/-- The container that the entries build. Of the values given for a key the last one counts,
at the place of the first. -/
def ofEntries (entries : List (String × Value)) : Value := ofMap (KeyedMap.ofList entries)

def shape : Value → Shape
  | .scalar _ => .scalar
  | .list _ => .orderedList
  | .map _ => .keyedMap

def kind : Value → Kind
  | .scalar value => value.kind
  | .list _ => .orderedList
  | .map _ => .keyedMap

/-- A container without elements. A scalar is never empty. -/
def isEmpty : Value → Bool
  | .scalar _ => false
  | .list items => items.isEmpty
  | .map fields => fields.isEmpty

/-- The string that the value is, if it is one. -/
def text? : Value → Option String
  | .scalar value => value.text?
  | _ => none

mutual

/-- Maps are classified at every depth: their keys are distinct and no positions. -/
def Classified : Value → Prop
  | .scalar _ => True
  | .list items => ClassifiedItems items
  | .map ⟨entries⟩ =>
    KeyedMap.KeysDistinct ⟨entries⟩ ∧ KeyedMap.hasPositionalKeys ⟨entries⟩ = false ∧
      ClassifiedEntries entries

/-- All items are classified. -/
def ClassifiedItems : List Value → Prop
  | [] => True
  | item :: rest => Classified item ∧ ClassifiedItems rest

/-- The values of all entries are classified. -/
def ClassifiedEntries : List (String × Value) → Prop
  | [] => True
  | (_, value) :: rest => Classified value ∧ ClassifiedEntries rest

end

end Value

end ParamSql
