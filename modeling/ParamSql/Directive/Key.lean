import ParamSql.Error

/-!
# Keys as directives

Every key of a description is either a name or one of the directives. A key that begins with a
dash and is no directive is an error wherever it stands.
-/
namespace ParamSql.Directive

/-- The directive of a key, or none for a name. -/
def read (key : String) : Except Error (Option Directive) :=
  if isKey key then
    match find? key with
    | some directive => .ok (some directive)
    | none => .error (.unknownDirective key)
  else .ok none

theorem read_eq_none_iff {key : String} : read key = .ok none ↔ isKey key = false := by
  unfold read
  cases dash : isKey key with
  | false => simp
  | true => cases find? key <;> simp

theorem read_eq_some_iff {key : String} {directive : Directive} :
    read key = .ok (some directive) ↔ isKey key = true ∧ find? key = some directive := by
  unfold read
  cases dash : isKey key with
  | false => simp
  | true => cases find? key <;> simp

end ParamSql.Directive
