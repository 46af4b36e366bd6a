import ParamSql.Proofs.Filter.Grammar
import ParamSql.Proofs.Placeholders.Filter

/-!
# Conditions that bind what they show

A statement can be executed when it has a parameter for each of its placeholders. The condition of
a column has as many placeholders as operands, unless its operator was given as `BETWEEN` in exactly
this writing: the placeholders go by the text of the operator and are those of a range, but a single
operand is read. A filter that gives all its values has a parameter for each placeholder iff no
condition in it, at any depth, is of that form.
-/
namespace ParamSql

open Text

namespace SearchCondition

/-- Without columns whose values are bound elsewhere, the placeholders of a filter are its parameters
and one more for each raw range. -/
theorem placeholderCount_of_bound {scope : Scope} {prefixed : Bool} {ambient : Connective}
    {spec : Value} {statement : Statement}
    (success : compile scope prefixed ambient spec = .ok statement)
    (base : prefixed = true → Unmarked scope.defaultAlias)
    (unmarked : ∀ text ∈ Filter.texts spec, Unmarked text)
    (bound : ∀ given ∈ Filter.conditions spec, given.isBare = false) :
    statement.placeholderCount =
      statement.params.length + (Filter.conditions spec).countP (·.isRawRange) := by
  have counted : statement.placeholderCount = statement.params.length +
      (Filter.conditions spec).countP (·.isBare) + (Filter.conditions spec).countP (·.isRawRange) := by
    cases prefixed with
    | true => exact (accounts_compile (base rfl) unmarked success).count
    | false =>
      -- the default alias does not show, so that it may as well be one without question marks
      rw [compile_unprefixed scope (.start "")] at success
      exact (accounts_compile (by decide) unmarked success).count
  have none : (Filter.conditions spec).countP (·.isBare) = 0 :=
    List.countP_eq_zero.mpr fun given member => by simp [bound given member]
  omega

/-- A column condition has as many placeholders as operands iff it is no raw range; a filter that
gives all its values has as many placeholders as parameters iff it contains no raw range. -/
theorem placeholderCount_eq_length_iff (scope : Scope) :
    (∀ column value comparison, Comparison.read column value = .ok comparison →
      (Placeholder.count comparison.placeholder = comparison.operands.length ↔
        (Filter.Condition.entry column value).isRawRange = false)) ∧
    ∀ prefixed ambient spec statement,
      compile scope prefixed ambient spec = .ok statement →
      (prefixed = true → Unmarked scope.defaultAlias) →
      (∀ text ∈ Filter.texts spec, Unmarked text) →
      (∀ given ∈ Filter.conditions spec, given.isBare = false) →
      (statement.placeholderCount = statement.params.length ↔
        ∀ given ∈ Filter.conditions spec, given.isRawRange = false) := by
  constructor
  · intro column value comparison success
    have counted := Comparison.count_placeholder column (Comparison.read_eq_ok_iff.mp success)
    cases raw : (Filter.Condition.entry column value).isRawRange with
    | false => simpa [raw] using counted
    | true =>
      simp only [raw, if_true] at counted
      simp only [Bool.true_eq_false, iff_false]
      omega
  · intro prefixed ambient spec statement success base unmarked bound
    have counted := placeholderCount_of_bound success base unmarked bound
    have none : (Filter.conditions spec).countP (·.isRawRange) = 0 ↔
        ∀ given ∈ Filter.conditions spec, given.isRawRange = false := by
      simp [List.countP_eq_zero]
    rw [← none]
    omega

/-- Operators that are spelled like built-in ones, but for `BETWEEN` in capitals. -/
def spelledSample : Value :=
  .map ⟨[("a", .map ⟨[("IN", .integer 1)]⟩),
    ("-or", .list [.map ⟨[("b", .map ⟨[("-between", .list [.integer 2, .integer 3])]⟩)]⟩,
      .map ⟨[("c", .map ⟨[("between", .string "what?")]⟩)]⟩])]⟩

theorem placeholderCount_eq_length_iff_spelledSample :
    ∃ statement, compile (.start "me") false .and spelledSample = .ok statement ∧
      statement.params = [.integer 1, .integer 2, .integer 3, .string "what?"] ∧
      statement.placeholderCount = statement.params.length := by
  have success : compile (.start "me") false .and spelledSample = .ok
      ⟨"( `a` IN ( ? ) AND ( ( `b` BETWEEN ? AND ? ) OR ( `c` between ? ) ) )",
        [.integer 1, .integer 2, .integer 3, .string "what?"]⟩ := rfl
  have texts : Filter.texts spelledSample = ["a", "IN", "b", "-between", "c", "between"] := rfl
  have bound := ((placeholderCount_eq_length_iff _).2 _ _ _ _ success nofun
    (by rw [texts]; decide) (by decide)).mpr (by decide)
  exact ⟨_, success, rfl, bound⟩

/-- A raw range leaves a placeholder without a parameter. -/
theorem placeholderCount_rawRange :
    ∃ comparison statement,
      Comparison.read "age" (.map ⟨[("BETWEEN", .integer 18)]⟩) = .ok comparison ∧
      Placeholder.count comparison.placeholder = 2 ∧ comparison.operands.length = 1 ∧
      compile (.start "me") false .and (.map ⟨[("age", .map ⟨[("BETWEEN", .integer 18)]⟩)]⟩) =
        .ok statement ∧
      statement.placeholderCount = 2 ∧ statement.params.length = 1 :=
  ⟨⟨⟨"BETWEEN"⟩, [.integer 18]⟩, ⟨"( `age` BETWEEN ? AND ? )", [.integer 18]⟩,
    rfl, rfl, rfl, rfl, rfl, rfl⟩

end SearchCondition

end ParamSql
