import ParamSql.Insertion.Render
import ParamSql.Proofs.Rows
import ParamSql.Proofs.Supplied.Value
import ParamSql.Proofs.Text.Compositional

/-!
# The texts of an insertion

Around its tuples of placeholders, an insertion shows the names of its table and its columns, and
the operations for rows that are there already. Every one of them was given.
-/
namespace ParamSql

open Text

namespace Value

theorem keys_subset_textsOfEntries (entries : List (String × Value)) :
    entries.map Prod.fst ⊆ textsOfEntries entries := by
  induction entries with
  | nil => exact List.Subset.refl _
  | cons entry rest ih =>
    exact List.cons_subset_cons entry.1 (List.subset_append_of_subset_right _ ih)

theorem rowKeys_subset_texts (row : Value) : row.rowKeys ⊆ row.texts := by
  cases row with
  | scalar | list => exact List.nil_subset _
  | map fields => exact keys_subset_textsOfEntries fields.entries

end Value

namespace ColumnUpdate

/-- The column that is changed. -/
def column : ColumnUpdate → String
  | .overwrite column => column
  | .operate column _ => column

/-- The texts that the update of a column shows. -/
def names : ColumnUpdate → List String
  | .overwrite column => [column]
  | .operate column operation => [column, operation]

theorem column_mem_names (update : ColumnUpdate) : update.column ∈ update.names := by
  cases update <;> exact List.mem_cons_self

end ColumnUpdate

namespace Insertion

/-- The texts that an insertion shows. -/
def names (insertion : Insertion) : List String :=
  insertion.table :: (insertion.columns ++ (insertion.updates.getD []).flatMap (·.names))

/-- Operations are read for columns with a name, and show what was given for them. -/
theorem updates_of_readOperations {operations : Value} {updates : List ColumnUpdate}
    (success : readOperations operations = .ok updates) :
    ∀ update ∈ updates, update.column ∈ operations.rowKeys ∧ update.column ≠ "" ∧
      update.names ⊆ operations.texts := by
  obtain ⟨⟨entries⟩, mapped, each⟩ := Outcome.bind_eq_ok.mp success
  obtain rfl := Value.requireMap_eq_ok_iff.mp mapped
  have described : List.Forall₂ (fun entry update => readOperation entry = .ok update) entries
      updates := Outcome.mapM_eq_ok_iff.mp each
  simp only [Value.rowKeys, KeyedMap.keys, Value.texts]
  clear success mapped each
  induction described with
  | nil => simp
  | @cons entry update rest updates read later ih =>
    obtain ⟨key, value⟩ := entry
    obtain ⟨operation, present, rfl, rfl⟩ := readOperation_eq_ok_iff.mp read
    refine List.forall_mem_cons.mpr ⟨⟨List.mem_cons_self, present, ?_⟩, fun update member => ?_⟩
    · simp [ColumnUpdate.names, Value.textsOfEntries, Value.texts_string]
    · obtain ⟨keyed, named, shown⟩ := ih update member
      refine ⟨List.mem_cons_of_mem _ keyed, named, fun text member => ?_⟩
      exact List.mem_cons_of_mem _ (List.mem_append_right _ (shown member))

end Insertion

variable {holds : String → Prop}

theorem ColumnUpdate.holds_text (kept : Compositional holds) {update : ColumnUpdate}
    (spelled : Spelled holds update.column) (given : ∀ text ∈ update.names, holds text) :
    holds update.text := by
  cases update with
  | overwrite column =>
    have taken : holds " = VALUES(" := kept.word (by decide)
    have closing : holds ")" := kept.word (by decide)
    exact kept.append (kept.append (kept.append spelled.quoted taken) spelled.quoted) closing
  | operate column operation =>
    have equals : holds " = " := kept.word (by decide)
    have space : holds " " := kept.word (by decide)
    have operated := given operation (by simp [names])
    exact kept.append (kept.append (kept.append (kept.append spelled.quoted equals) spelled.quoted)
      space) operated

namespace Insertion

theorem holds_updateClause (kept : Compositional holds) {updates : Option (List ColumnUpdate)}
    (spelled : ∀ update ∈ updates.getD [], Spelled holds update.column)
    (given : ∀ update ∈ updates.getD [], ∀ text ∈ update.names, holds text) :
    holds (updateClause updates) := by
  cases updates with
  | none =>
    rw [updateClause_none]
    exact kept.empty
  | some updates =>
    have keyword : holds " ON DUPLICATE KEY UPDATE " := kept.word (by decide +kernel)
    rw [updateClause_some]
    refine kept.append keyword (kept.intercalate (kept.word (by decide)) ?_)
    exact List.forall_mem_map.mpr fun update member =>
      update.holds_text kept (spelled update member) (given update member)

theorem holds_columnList (kept : Compositional holds) {columns : List String}
    (spelled : ∀ name ∈ columns, Spelled holds name) : holds (columnList columns) := by
  have opening : holds "( " := kept.word (by decide)
  have closing : holds " )" := kept.word (by decide)
  have listed : holds (",".intercalate (columns.map Name.quote)) :=
    kept.intercalate (kept.word (by decide)) <|
      List.forall_mem_map.mpr fun name member => (spelled name member).quoted
  exact kept.append (kept.append opening listed) closing

/-- The text of an insertion up to its tuples. -/
theorem holds_opening (kept : Compositional holds) {insertion : Insertion}
    (table : Spelled holds insertion.table)
    (columns : ∀ name ∈ insertion.columns, Spelled holds name) :
    holds (insertion.verb.keyword ++ " " ++ Name.quote insertion.table ++ " " ++
      columnList insertion.columns ++ " VALUES ") := by
  have verb : holds insertion.verb.keyword := kept.word (by cases insertion.verb <;> decide)
  have space : holds " " := kept.word (by decide)
  have values : holds " VALUES " := kept.word (by decide)
  exact kept.append (kept.append (kept.append (kept.append (kept.append verb space) table.quoted)
    space) (holds_columnList kept columns)) values

end Insertion

end ParamSql
