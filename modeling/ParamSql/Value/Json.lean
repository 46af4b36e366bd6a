import ParamSql.Error
import ParamSql.Value.Basic

/-!
# Values and documents

A document becomes a value when all its numbers are 64-bit integers; the first one in document
order that is not is the error. Objects are classified on the way, so an object with
positions for keys comes back as an array.
-/
namespace ParamSql.Value

mutual

/-- The value that a document describes. -/
def ofJson : Json → Except Error Value
  | .null => .ok .null
  | .bool value => .ok (.scalar (.boolean value))
  | .number value =>
    match value.toInt64? with
    | some integer => .ok (.scalar (.integer integer))
    | none => .error (.notInt64 value)
  | .string value => .ok (.string value)
  | .array items => do return .list (← ofJsonItems items)
  | .object ⟨entries⟩ => do return ofEntries (← ofJsonEntries entries)

/-- The values of the items of an array. -/
def ofJsonItems : List Json → Except Error (List Value)
  | [] => .ok []
  | item :: rest => do
    let value ← ofJson item
    return value :: (← ofJsonItems rest)

/-- The values of the entries of an object. -/
def ofJsonEntries : List (String × Json) → Except Error (List (String × Value))
  | [] => .ok []
  | (key, item) :: rest => do
    let value ← ofJson item
    return (key, value) :: (← ofJsonEntries rest)

end

mutual

/-- The document of a value: lists as arrays, maps as objects. -/
def toJson : Value → Json
  | .scalar value => value.toJson
  | .list items => .array (toJsonItems items)
  | .map ⟨entries⟩ => .object ⟨toJsonEntries entries⟩

/-- The documents of the items of a list. -/
def toJsonItems : List Value → List Json
  | [] => []
  | item :: rest => toJson item :: toJsonItems rest

/-- The documents of the entries of a map. -/
def toJsonEntries : List (String × Value) → List (String × Json)
  | [] => []
  | (key, value) :: rest => (key, toJson value) :: toJsonEntries rest

end

/-- The document of a keyed map: always an object, also when its keys are positions. -/
def mapToJson (map : KeyedMap Value) : Json := .object ⟨toJsonEntries map.entries⟩

end ParamSql.Value
