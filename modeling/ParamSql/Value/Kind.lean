/-!
# Kinds of values

What a value is: in the coarse sense of its shape, and in the words with which diagnostics
name it.
-/
namespace ParamSql

/-- The three forms a value can take. -/
inductive Shape where
  | scalar | orderedList | keyedMap
  deriving DecidableEq, Repr

def Shape.name : Shape → String
  | .scalar => "scalar"
  | .orderedList => "ordered list"
  | .keyedMap => "keyed map"

/-- A shape, with scalars told apart by their type. -/
inductive Kind where
  | null | boolean | integer | string | orderedList | keyedMap
  deriving DecidableEq, Repr

def Kind.name : Kind → String
  | .null => "null"
  | .boolean => "boolean"
  | .integer => "integer"
  | .string => "string"
  | .orderedList => "ordered list"
  | .keyedMap => "keyed map"

end ParamSql
