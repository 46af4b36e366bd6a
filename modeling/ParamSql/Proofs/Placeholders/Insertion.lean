import ParamSql.Proofs.Placeholders.Count
import ParamSql.Proofs.Supplied.Insertion

/-!
# The placeholders of an insertion

Every row has a tuple of placeholders that is as wide as the list of columns, and it has a value for
each of the columns. The names around the tuples bring in no question marks.
-/
namespace ParamSql

open Text

namespace Insertion

/-- Operations show what was given for them. -/
theorem unmarked_operations {operations : Value} {updates : List ColumnUpdate}
    (success : readOperations operations = .ok updates)
    (unmarked : ∀ text ∈ operations.texts, Unmarked text) :
    ∀ text ∈ updates.flatMap (·.names), Unmarked text := by
  intro text shown
  obtain ⟨update, member, named⟩ := List.mem_flatMap.mp shown
  exact unmarked text ((updates_of_readOperations success update member).2.2 named)

theorem unmarked_updateClause {updates : Option (List ColumnUpdate)}
    (unmarked : ∀ name ∈ (updates.getD []).flatMap (·.names), Unmarked name) :
    Unmarked (updateClause updates) := by
  have each (update : ColumnUpdate) (member : update ∈ updates.getD []) :
      ∀ text ∈ update.names, Unmarked text :=
    fun text named => unmarked text (List.mem_flatMap.mpr ⟨update, member, named⟩)
  refine holds_updateClause compositional_unmarked (fun update member => ?_) each
  exact spelled_unmarked (each update member _ update.column_mem_names)

/-- An insertion has the placeholders of its rows, each as wide as the list of columns. -/
theorem count_text {insertion : Insertion} (unmarked : ∀ name ∈ insertion.names, Unmarked name) :
    Placeholder.count insertion.text = insertion.rows.length * insertion.columns.length := by
  simp only [names, List.forall_mem_cons, List.forall_mem_append] at unmarked
  obtain ⟨table, columns, updates⟩ := unmarked
  have opening := holds_opening compositional_unmarked (spelled_unmarked table) fun name member =>
    spelled_unmarked (columns name member)
  rw [text, Placeholder.count_append, Placeholder.count_append,
    Placeholder.count_of_unmarked opening,
    Placeholder.count_of_unmarked (unmarked_updateClause updates),
    Placeholder.count_intercalate (by decide), List.map_const', Placeholder.total_replicate,
    Placeholder.count_tuple]
  omega

section

variable {columns : List String} {given : List Value} {rows : List (List Scalar)}

theorem map_flatten_of_fits (fits : List.Forall₂ (Fits columns) given rows) :
    rows.flatten.map .scalar = given.flatMap (·.rowValues) := by
  induction fits with
  | nil => rfl
  | cons first rest ih =>
    rw [List.flatten_cons, List.map_append, ih, List.flatMap_cons, first.2]

theorem length_flatten_of_fits (fits : List.Forall₂ (Fits columns) given rows) :
    rows.flatten.length = rows.length * columns.length := by
  induction fits with
  | nil => simp
  | cons first rest ih =>
    rw [List.flatten_cons, List.length_append, ih, List.length_cons, first.length_eq,
      Nat.succ_mul, Nat.add_comm]

end

/-- An insertion accounts for its placeholders, whatever happens to rows that are there already. -/
theorem accounts_statement {insertion : Insertion} {given : List Value}
    (fits : List.Forall₂ (Fits insertion.columns) given insertion.rows)
    (unmarked : ∀ name ∈ insertion.names, Unmarked name) :
    insertion.statement.Accounts (given.flatMap (·.rowValues)) [] :=
  ⟨map_flatten_of_fits fits, (count_text unmarked).trans (length_flatten_of_fits fits).symm⟩

end Insertion

end ParamSql
