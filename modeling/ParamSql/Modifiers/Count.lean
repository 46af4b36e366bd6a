import ParamSql.Modifiers.Clause
import ParamSql.Text.Blank
import ParamSql.Text.Numeral
import ParamSql.Value.Require

/-!
# Row counts

A clause that counts rows takes a non-negative integer or a string with a count, and writes
the count in its plain decimal form. Blanks around the count do not matter, but the error for a
string that holds none quotes it with them.
-/
namespace ParamSql.CountClause

/-- The count that a value gives. -/
def read (clause : CountClause) (value : Value) : Except Error Nat := do
  match ← value.requireScalar clause.keyword with
  | .integer count =>
    if count.toInt < 0 then .error (.negativeCount clause count) else .ok count.toInt.toNat
  | .string text =>
    match Text.readCount? (Text.trimBlanks text.toList) with
    | some count => .ok count
    | none => .error (.notNumeric clause text)
  | other => .error (.countForm clause other.kind)

def text (clause : CountClause) (count : Nat) : String :=
  " " ++ clause.keyword ++ " " ++ toString count

/-- Read a count and write its clause. -/
def compile (clause : CountClause) (spec : Value) : Except Error String := do
  return clause.text (← clause.read spec)

end ParamSql.CountClause
