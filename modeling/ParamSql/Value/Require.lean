import ParamSql.Error
import ParamSql.Value.Basic

/-!
# Values of a required form

The payload of a value where only one form has a meaning. The rejection of any other form
names the context that asked for it.
-/
namespace ParamSql

namespace Value

def requireScalar (context : String) : Value → Except Error Scalar
  | .scalar value => .ok value
  | value => .error (.wrongForm context .scalar value.kind)

def requireString (context : String) : Value → Except Error String
  | .scalar (.string text) => .ok text
  | value => .error (.wrongForm context .string value.kind)

def requireList (context : String) : Value → Except Error (List Value)
  | .list items => .ok items
  | value => .error (.wrongForm context .orderedList value.kind)

def requireMap (context : String) : Value → Except Error (KeyedMap Value)
  | .map fields => .ok fields
  | value => .error (.wrongForm context .keyedMap value.kind)

end Value

/-- The entry of a map that has to hold exactly one. -/
def KeyedMap.requireSingle {α : Type} (context : String) (map : KeyedMap α) :
    Except Error (String × α) :=
  match map.entries with
  | [entry] => .ok entry
  | entries => .error (.notOneEntry context entries.length)

end ParamSql
