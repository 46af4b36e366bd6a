import ParamSql.Error
import ParamSql.Modifiers.Clause
import ParamSql.Value.Equality
import ParamSql.Value.Require

/-!
# Modifiers

The clauses that follow the condition of a statement, as a caller gives them: each one may be
absent, and nothing is checked before the statement is written. They are given one by one or as
a map, and the order in which they are given does not matter.
-/
namespace ParamSql

structure Modifiers where
  groupBy : Option Value
  orderBy : Option Value
  rows : Option Value
  offset : Option Value
  deriving DecidableEq

/-- The name of a modifier. -/
inductive Modifier where
  | groupBy | orderBy | rows | offset
  deriving DecidableEq, Repr

namespace Modifier

def all : List Modifier := [.groupBy, .orderBy, .rows, .offset]

/-- The key of the modifier in a map; its case counts. -/
def key : Modifier → String
  | .groupBy => "groupBy"
  | .orderBy => "orderBy"
  | .rows => "rows"
  | .offset => "offset"

def find? (key : String) : Option Modifier := all.find? (·.key = key)

end Modifier

namespace Modifiers

def none : Modifiers := ⟨.none, .none, .none, .none⟩

def get? (modifiers : Modifiers) : Modifier → Option Value
  | .groupBy => modifiers.groupBy
  | .orderBy => modifiers.orderBy
  | .rows => modifiers.rows
  | .offset => modifiers.offset

/-- Give a modifier; it replaces an earlier one of that name. -/
def set (modifiers : Modifiers) (modifier : Modifier) (value : Value) : Modifiers :=
  match modifier with
  | .groupBy => { modifiers with groupBy := some value }
  | .orderBy => { modifiers with orderBy := some value }
  | .rows => { modifiers with rows := some value }
  | .offset => { modifiers with offset := some value }

def isEmpty (modifiers : Modifiers) : Bool :=
  modifiers.groupBy.isNone && modifiers.orderBy.isNone && modifiers.rows.isNone &&
    modifiers.offset.isNone

/-- Give the modifiers of a list of entries, one after the other. -/
def setEntries (modifiers : Modifiers) : List (String × Value) → Except Error Modifiers
  | [] => .ok modifiers
  | (key, value) :: rest =>
    match Modifier.find? key with
    | some modifier => setEntries (modifiers.set modifier value) rest
    | Option.none => .error (.unknownOption key)

/-- The modifiers that a map gives. An empty container gives none. -/
def ofValue (value : Value) : Except Error Modifiers := do
  if value.isEmpty then return none
  setEntries none (← value.requireMap "options").entries

theorem get?_set (modifiers : Modifiers) (modifier other : Modifier) (value : Value) :
    (modifiers.set modifier value).get? other =
      if modifier = other then some value else modifiers.get? other := by
  cases modifier <;> cases other <;> rfl

/-- Two collections of modifiers are equal when they agree on every name. -/
theorem ext_get? {modifiers other : Modifiers}
    (same : ∀ modifier, modifiers.get? modifier = other.get? modifier) : modifiers = other := by
  cases modifiers
  cases other
  have groupBy := same .groupBy
  have orderBy := same .orderBy
  have rows := same .rows
  have offset := same .offset
  simp_all [get?]

end Modifiers

end ParamSql
