import ParamSql.Compiler
import ParamSql.Proofs.Supplied.Projection
import ParamSql.Proofs.Supplied.TableRef

/-!
# The texts of a selection

The head of a selection binds nothing. Its text consists of its fields and its table, and the tail
is written under the same default alias.
-/
namespace ParamSql.Compiler

open Text

variable {holds : String → Prop} {compiler : Compiler} {fields : Option Value}

theorem holds_selected (kept : Compositional holds)
    (base : holds (Name.quote compiler.defaultAlias))
    (spelled : ∀ name ∈ (fields.map (·.fieldIdentifiers)).getD [], name ≠ "" → Spelled holds name)
    {columns : String} (success : (compiler.selected fields).1 = .ok columns) : holds columns := by
  have everything : holds "*" := kept.word (by decide)
  cases fields with
  | none =>
    cases success
    exact everything
  | some spec =>
    simp only [selected] at success
    split at success
    · cases success
      exact everything
    · exact Projection.holds_compile kept base spelled success

/-- What is selected leaves the default alias as it is. -/
theorem defaultAlias_selected :
    (compiler.selected fields).2.defaultAlias = compiler.defaultAlias := by
  cases fields with
  | none => rfl
  | some spec =>
    simp only [selected]
    split
    · rfl
    · exact Projection.defaultAlias_compile spec

/-- What holds of the texts of the table and of the fields holds of the head of a selection. -/
theorem holds_selectHead (kept : Compositional holds)
    (base : holds (Name.quote compiler.defaultAlias)) {source : Value}
    (identified : ∀ name ∈ source.tableIdentifiers, name ≠ "" → Spelled holds name)
    (given : ∀ text ∈ source.texts, holds text)
    (spelled : ∀ name ∈ (fields.map (·.fieldIdentifiers)).getD [], name ≠ "" → Spelled holds name)
    {statement : Statement} {scope : Scope}
    (success : compiler.selectHead source fields = .ok (statement, scope)) :
    ∃ text, statement = .ofText text ∧ holds text ∧
      scope.defaultAlias = compiler.defaultAlias := by
  obtain ⟨origin, read, rest⟩ := Outcome.bind_eq_ok.mp success
  obtain ⟨columns, chosen, same⟩ := Outcome.bind_eq_ok.mp rest
  cases same
  have select : holds "SELECT " := kept.word (by decide)
  have source : holds " FROM " := kept.word (by decide)
  have first := holds_selected kept base spelled chosen
  have second := TableRef.holds_compile kept base identified given read
  exact ⟨_, rfl, kept.append (kept.append (kept.append select first) source) second,
    defaultAlias_selected⟩

end ParamSql.Compiler
