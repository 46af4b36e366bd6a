import ParamSql.Json.Basic
import ParamSql.Value.Kind

/-!
# Scalars

A scalar is the only kind of value that is ever bound to a placeholder: null, a truth value, a
64-bit integer or a string.
-/
namespace ParamSql

inductive Scalar where
  | null
  | boolean (value : Bool)
  | integer (value : Int64)
  | string (value : String)
  deriving DecidableEq, Repr

namespace Scalar

def kind : Scalar → Kind
  | .null => .null
  | .boolean _ => .boolean
  | .integer _ => .integer
  | .string _ => .string

/-- The string payload, if there is one. -/
def text? : Scalar → Option String
  | .string value => some value
  | _ => none

/-- The scalar in writing; a string stands for itself, without quotes. -/
def display : Scalar → String
  | .null => "NULL"
  | .boolean value => if value then "true" else "false"
  | .integer value => toString value.toInt
  | .string value => value

def toJson : Scalar → Json
  | .null => .null
  | .boolean value => .bool value
  | .integer value => .number (.ofInt64 value)
  | .string value => .string value

/-- The scalar that a document is: containers and numbers outside the 64-bit integers are
none. -/
def ofJson? : Json → Option Scalar
  | .null => some .null
  | .bool value => some (.boolean value)
  | .number value => value.toInt64?.map .integer
  | .string value => some (.string value)
  | .array _ => none
  | .object _ => none

theorem ofJson?_toJson (scalar : Scalar) : ofJson? scalar.toJson = some scalar := by
  cases scalar with
  | integer value => simp [toJson, ofJson?, Number.toInt64?_ofInt64]
  | _ => rfl

end Scalar

end ParamSql
