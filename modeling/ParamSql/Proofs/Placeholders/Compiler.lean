import ParamSql.Proofs.Compiled
import ParamSql.Proofs.Placeholders.Insertion
import ParamSql.Proofs.Supplied.Compiler
import ParamSql.Proofs.Supplied.Request

/-!
# The placeholders of a statement

Every fragment of a statement accounts for its placeholders, so that the statement does: there is a
parameter for each of them, but for the columns without a value and the raw ranges of its filter,
and the parameters are the values of the request in order.
-/
namespace ParamSql

open Text

namespace Restriction

theorem accounts_whereClause {scope : Scope} {prefixed : Bool} {spec : Value}
    {statement : Statement} (base : Unmarked scope.defaultAlias)
    (unmarked : ∀ text ∈ Filter.texts spec, Unmarked text)
    (success : SearchCondition.compile scope prefixed .and spec = .ok statement) :
    (whereClause statement).Accounts (Filter.operands spec) (Filter.conditions spec) := by
  have accounts := SearchCondition.accounts_compile base unmarked success
  unfold whereClause
  split
  -- a filter without text contains no condition, so that it gives no values that could be lost
  · next empty =>
    obtain ⟨condition, accepted, same⟩ := Outcome.bind_eq_ok.mp success
    cases same
    have none := (SearchCondition.text_statement_eq_empty_iff accepted _ _).mp
      (String.isEmpty_iff.mp empty)
    simpa [Filter.operands, none] using Statement.Accounts.empty
  · have keyword : Unmarked " WHERE " := by decide
    simpa using (Statement.Accounts.ofText keyword).append accounts

/-- The tail of a statement accounts for its placeholders: all of them are in the filter. -/
theorem accounts_compile {scope : Scope} {prefixed : Bool} {given : Restriction}
    {statement : Statement} (base : Unmarked scope.defaultAlias)
    (unmarked : ∀ text ∈ given.texts, Unmarked text)
    (success : given.compile scope prefixed = .ok statement) :
    statement.Accounts given.operands given.conditions := by
  obtain ⟨inFilter, inModifiers⟩ := List.forall_mem_append.mp unmarked
  obtain ⟨condition, filtered, ended⟩ := Outcome.bind_eq_ok.mp success
  obtain ⟨clauses, written, same⟩ := Outcome.bind_eq_ok.mp ended
  cases same
  have tail := Statement.Accounts.ofText (Modifiers.unmarked_compile base inModifiers written)
  have front : condition.Accounts given.operands given.conditions := by
    obtain ⟨filter, modifiers⟩ := given
    cases filter with
    | none =>
      cases filtered
      exact .empty
    | some spec =>
      obtain ⟨compiled, accepted, same⟩ := Outcome.bind_eq_ok.mp filtered
      cases same
      exact accounts_whereClause base inFilter accepted
  simpa using front.append tail

end Restriction

namespace Assignment

theorem count_text {assignment : Assignment} (unmarked : Unmarked assignment.column) :
    Placeholder.count assignment.text = 1 := by
  have bound : Placeholder.count " = ?" = 1 := rfl
  rw [text, Placeholder.count_append, bound,
    Placeholder.count_of_unmarked (unmarked_quote.mpr unmarked)]

/-- Assignments have one placeholder each. -/
theorem count_texts {assignments : List Assignment}
    (unmarked : ∀ column ∈ assignments.map (·.column), Unmarked column) :
    Placeholder.count (",".intercalate (assignments.map (·.text))) = assignments.length := by
  rw [Placeholder.count_intercalate (by decide)]
  induction assignments with
  | nil => rfl
  | cons assignment rest ih =>
    obtain ⟨here, there⟩ := List.forall_mem_cons.mp unmarked
    have others := ih there
    simp only [List.map_cons, Placeholder.total, count_text here, others, List.length_cons]
    omega

end Assignment

namespace Compiler

variable {compiler : Compiler} {name : String} {row : Value} {statement : Statement}

theorem accounts_updateHead (named : Unmarked name) (unmarked : ∀ key ∈ row.rowKeys, Unmarked key)
    (success : updateHead name row = .ok statement) : statement.Accounts row.rowValues [] := by
  obtain ⟨table, checked, rest⟩ := Outcome.bind_eq_ok.mp success
  obtain ⟨assignments, read, same⟩ := Outcome.bind_eq_ok.mp rest
  obtain ⟨-, rfl⟩ := Name.require_eq_ok_iff.mp checked
  cases same
  obtain ⟨keys, values, -⟩ := Assignment.entries_of_readAll read
  rw [keys] at unmarked
  have opening : Unmarked ("UPDATE " ++ Name.quote table ++ " SET ") := by
    simp only [avoids_append]
    exact ⟨⟨by decide, unmarked_quote.mpr named⟩, by decide⟩
  constructor
  · simp [values]
  · change Placeholder.count _ = _
    rw [Placeholder.count_append, Placeholder.count_of_unmarked opening,
      Assignment.count_texts unmarked]
    simp

theorem accounts_deleteHead (named : Unmarked name) (success : deleteHead name = .ok statement) :
    statement.Accounts [] [] := by
  obtain ⟨_, checked, same⟩ := Outcome.bind_eq_ok.mp success
  obtain ⟨-, rfl⟩ := Name.require_eq_ok_iff.mp checked
  cases same
  exact .ofText (avoids_append.mpr ⟨by decide, unmarked_quote.mpr named⟩)

/-- The head of a selection has no placeholders, and its tail is in a scope with the default alias
of the compiler. -/
theorem accounts_selectHead {source : Value} {fields : Option Value} {scope : Scope}
    (base : Unmarked compiler.defaultAlias) (sourced : ∀ text ∈ source.texts, Unmarked text)
    (selected : ∀ text ∈ (fields.map (·.texts)).getD [], Unmarked text)
    (success : compiler.selectHead source fields = .ok (statement, scope)) :
    statement.Accounts [] [] ∧ scope.defaultAlias = compiler.defaultAlias := by
  have columns (name : String) (member : name ∈ (fields.map (·.fieldIdentifiers)).getD []) :
      Spelled Unmarked name := by
    cases fields with
    | none => cases member
    | some spec =>
      exact spelled_unmarked (selected name (spec.fieldIdentifiers_subset_texts member))
  have tables (name : String) (member : name ∈ source.tableIdentifiers) : Spelled Unmarked name :=
    spelled_unmarked (sourced name (source.tableIdentifiers_subset_texts member))
  obtain ⟨text, rfl, unmarked, kept⟩ := holds_selectHead compositional_unmarked
    (unmarked_quote.mpr base) (fun name member _ => tables name member) sourced
    (fun name member _ => columns name member) success
  exact ⟨.ofText unmarked, kept⟩

/-- An insertion accounts for its placeholders under any clause for rows that are there already. -/
theorem accounts_insertion {insertion : Insertion} {given : List Value}
    {updates : Option (List ColumnUpdate)} (read : insertion.ReadFrom name given)
    (unmarked : ∀ text ∈ name :: given.flatMap (·.rowKeys), Unmarked text)
    (updated : ∀ text ∈ (updates.getD []).flatMap (·.names), Unmarked text) :
    (Insertion.statement { insertion with updates := updates }).Accounts
      (given.flatMap (·.rowValues)) [] := by
  obtain ⟨named, keyed⟩ := List.forall_mem_cons.mp unmarked
  have columns := fun text member => keyed text (read.columns_subset member)
  refine Insertion.accounts_statement read.fits ?_
  rw [Insertion.names, read.table_eq]
  exact List.forall_mem_cons.mpr ⟨named, List.forall_mem_append.mpr ⟨columns, updated⟩⟩

theorem accounts_row {insertion : Insertion} {updates : Option (List ColumnUpdate)}
    (read : insertion.ReadFrom name [row]) (unmarked : ∀ text ∈ name :: row.rowKeys, Unmarked text)
    (updated : ∀ text ∈ (updates.getD []).flatMap (·.names), Unmarked text) :
    (Insertion.statement { insertion with updates := updates }).Accounts row.rowValues [] := by
  simpa using accounts_insertion read (by simpa using unmarked) updated

/-- Every fragment of a statement accounts for its placeholders, and so does the statement. -/
theorem accounts_compile {request : Request} (base : Unmarked compiler.defaultAlias)
    (unmarked : ∀ text ∈ request.texts, Unmarked text)
    (success : compiler.compile request = .ok statement) :
    statement.Accounts request.values request.conditions := by
  cases compiled_of_compile success with
  | insert read | replace read => exact accounts_row read unmarked (by simp [read.updates_eq])
  | bulkInsert read => exact accounts_insertion read unmarked (by simp [read.updates_eq])
  | @upsert name row insertion read =>
    refine accounts_row read unmarked ?_
    simp only [Option.getD_some, List.flatMap_map, ColumnUpdate.names, List.flatMap_singleton']
    exact fun text member =>
      unmarked text (List.mem_cons_of_mem name (by simpa using read.columns_subset member))
  | upsertWith read operated =>
    obtain ⟨named, others⟩ := List.forall_mem_cons.mp unmarked
    obtain ⟨keyed, given⟩ := List.forall_mem_append.mp others
    exact accounts_row read (List.forall_mem_cons.mpr ⟨named, keyed⟩)
      (Insertion.unmarked_operations operated given)
  | update headed ended =>
    obtain ⟨named, others⟩ := List.forall_mem_cons.mp unmarked
    obtain ⟨keyed, restricted⟩ := List.forall_mem_append.mp others
    exact (accounts_updateHead named keyed headed).append
      (Restriction.accounts_compile base restricted ended)
  | select headed ended =>
    obtain ⟨others, restricted⟩ := List.forall_mem_append.mp unmarked
    obtain ⟨sourced, selected⟩ := List.forall_mem_append.mp others
    obtain ⟨front, kept⟩ := accounts_selectHead base sourced selected headed
    exact front.append (Restriction.accounts_compile (kept ▸ base) restricted ended)
  | delete headed ended =>
    obtain ⟨named, restricted⟩ := List.forall_mem_cons.mp unmarked
    exact (accounts_deleteHead named headed).append
      (Restriction.accounts_compile base restricted ended)
  | restrict ended => exact Restriction.accounts_compile base unmarked ended

/-- The placeholders of a statement are accounted for, when no text that was supplied has a question
mark: there is one for each parameter, one for each column of the filter without a value, and a
second one for each raw range. The parameters are the values of the rows, in the order of their keys
and row after row, and then those of the filter, in the order of its conditions. -/
theorem placeholderCount_compile {request : Request} (base : Unmarked compiler.defaultAlias)
    (unmarked : ∀ text ∈ request.texts, Unmarked text)
    (success : compiler.compile request = .ok statement) :
    statement.placeholderCount = statement.params.length +
        request.conditions.countP (·.isBare) + request.conditions.countP (·.isRawRange) ∧
      statement.params.map .scalar = request.values :=
  have accounts := accounts_compile base unmarked success
  ⟨accounts.count, accounts.params⟩

/-- An update whose filter has columns without a value, a raw range, and a list with a question mark
in one of its values. -/
def mixedSample : Request :=
  .update "t" (.map ⟨[("a", .integer 1), ("b", .null)]⟩)
    ⟨some (.list [.string "x", .map ⟨[("c", .map ⟨[("BETWEEN", .integer 5)]⟩),
      ("-or", .list [.string "y",
        .map ⟨[("d", .map ⟨[("-in", .list [.string "what?", .integer 2])]⟩)]⟩])]⟩]),
      .none⟩

theorem placeholderCount_compile_mixedSample :
    ∃ statement, standard.compile mixedSample = .ok statement ∧
      statement.placeholderCount = 5 + 2 + 1 ∧
      statement.params = [.integer 1, .null, .integer 5, .string "what?", .integer 2] := by
  have success : standard.compile mixedSample = .ok
      ⟨"UPDATE `t` SET `a` = ?,`b` = ? WHERE ( `x` = ? AND ( `c` BETWEEN ? AND ? AND " ++
        "( `y` = ? OR ( `d` IN ( ?,? ) ) ) ) )",
        [.integer 1, .null, .integer 5, .string "what?", .integer 2]⟩ := rfl
  have texts : mixedSample.texts = ["t", "a", "b", "x", "c", "BETWEEN", "y", "d", "-in"] := rfl
  have counted := placeholderCount_compile (by decide) (by rw [texts]; decide) success
  exact ⟨_, success, counted.1, rfl⟩

end Compiler

end ParamSql
