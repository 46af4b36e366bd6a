import ParamSql.Scalar.Basic

/-!
# Statements

A statement is SQL text with the parameters for its placeholders, in order. Fragments of
statements have the same form and are appended to each other.
-/
namespace ParamSql

@[ext]
structure Statement where
  text : String
  params : List Scalar
  deriving DecidableEq, Repr

namespace Statement

def empty : Statement := ⟨"", []⟩

/-- Text that binds nothing. -/
def ofText (text : String) : Statement := ⟨text, []⟩

/-- Append the text and the parameters of a fragment. -/
def append (first second : Statement) : Statement :=
  ⟨first.text ++ second.text, first.params ++ second.params⟩

instance : Append Statement := ⟨append⟩

/-- Without text. -/
def isEmpty (statement : Statement) : Bool := statement.text.isEmpty

/-- The question marks of the text, wherever they come from. -/
def placeholderCount (statement : Statement) : Nat := statement.text.toList.count '?'

def toJson (statement : Statement) : Json :=
  .object ⟨[("text", .string statement.text),
    ("params", .array (statement.params.map Scalar.toJson))]⟩

theorem text_append (first second : Statement) :
    (first ++ second).text = first.text ++ second.text := rfl

theorem params_append (first second : Statement) :
    (first ++ second).params = first.params ++ second.params := rfl

theorem append_empty (statement : Statement) : statement ++ empty = statement :=
  Statement.ext (String.append_empty) (List.append_nil statement.params)

theorem empty_append (statement : Statement) : empty ++ statement = statement :=
  Statement.ext (String.empty_append) rfl

theorem append_assoc (first second third : Statement) :
    first ++ second ++ third = first ++ (second ++ third) :=
  Statement.ext (String.append_assoc) (List.append_assoc ..)

theorem placeholderCount_append (first second : Statement) :
    (first ++ second).placeholderCount = first.placeholderCount + second.placeholderCount := by
  simp [placeholderCount, text_append]

end Statement

end ParamSql
