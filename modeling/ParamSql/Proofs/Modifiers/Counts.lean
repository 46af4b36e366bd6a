import ParamSql.Proofs.Modifiers.Clauses
import ParamSql.Proofs.Text.Numeral

/-!
# What counts rows

The two clauses that count rows accept the same values: integers that are not negative, and texts
that give a number below 2^64. The clause has the plain numeral of the number, so that nothing of
the way in which it was given can be seen in the statement.
-/
namespace ParamSql.CountClause

open Text (Spells IsPlainNumeral)

/-- The modifier under which the count is given. -/
def modifier : CountClause → Modifier
  | .limit => .rows
  | .offset => .offset

/-- The modifiers that give nothing but this count. -/
def alone (clause : CountClause) (value : Value) : Modifiers :=
  Modifiers.none.set clause.modifier value

/-- A count by itself is all that is written. -/
theorem compile_alone (clause : CountClause) (scope : Scope) (value : Value) :
    (clause.alone value).compile scope = clause.compile value := by
  rw [alone, Modifiers.compile_set_none]
  cases clause <;> rfl

/-- A text is accepted as a count when it gives a number below 2^64. -/
theorem compile_string_eq_ok_iff {clause : CountClause} {text sql : String} :
    clause.compile (.string text) = .ok sql ↔
      ∃ n, Spells n text.toList ∧ n < 2 ^ 64 ∧ sql = clause.text n := by
  simp only [← and_assoc, ← Text.readCount?_trimBlanks_eq_some_iff]
  cases found : Text.readCount? (Text.trimBlanks text.toList) <;>
    simp [compile, read, Value.string, Value.requireScalar, found, eq_comm]

/-- Any other text is refused, and quoted as it was given. -/
theorem compile_string_eq_error_iff {clause : CountClause} {text : String} {fault : Error} :
    clause.compile (.string text) = .error fault ↔
      (¬ ∃ n, Spells n text.toList ∧ n < 2 ^ 64) ∧ fault = .notNumeric clause text := by
  simp only [← Text.readCount?_trimBlanks_eq_some_iff]
  cases found : Text.readCount? (Text.trimBlanks text.toList) <;>
    simp [compile, read, Value.string, Value.requireScalar, found, eq_comm]

/-- An integer is accepted as a count unless it is negative. -/
theorem compile_integer (clause : CountClause) (value : Int64) :
    clause.compile (.integer value) =
      if 0 ≤ value.toInt then .ok (clause.text value.toInt.toNat)
      else .error (.negativeCount clause value) := by
  by_cases negative : value.toInt < 0
  · simp [compile, read, Value.integer, Value.requireScalar, negative]
  · simp [compile, read, Value.integer, Value.requireScalar, negative, not_lt.mp negative]

/-- The clause has the plain numeral of its count. -/
theorem text_eq_iff {clause : CountClause} {n : Nat} {sql : String} :
    sql = clause.text n ↔ ∃ numeral : String,
      IsPlainNumeral n numeral.toList ∧ sql = " " ++ clause.keyword ++ " " ++ numeral := by
  have plain : ∀ numeral : String, IsPlainNumeral n numeral.toList ↔ numeral = toString n := by
    intro numeral
    rw [Text.isPlainNumeral_iff, ← String.toList_inj, Nat.toString_eq_repr, Nat.toList_repr]
    rfl
  simp only [plain, exists_eq_left]
  rfl

end ParamSql.CountClause
