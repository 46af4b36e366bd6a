import ParamSql.Proofs.Placeholders.Compiler
import ParamSql.Proofs.Text.Parts

/-!
# Rows together and rows alone

Several rows are inserted together exactly when each of them can be inserted alone and all have the
columns of the first one, and the statement for all of them is put together from those for the
single ones.
-/
namespace ParamSql

open Text

namespace Insertion

section

variable {table : String} {columns : List String} {rows : List Value} {values : List (List Scalar)}

/-- A row is inserted alone under columns when they are its keys and it can be inserted at all. -/
theorem exists_ofRow_under_iff {row : Value} :
    (∃ cells, ofRow .insert table row = .ok ⟨.insert, table, columns, [cells], none⟩) ↔
      row.rowKeys = columns ∧ ∃ insertion, ofRow .insert table row = .ok insertion := by
  constructor
  · rintro ⟨cells, success⟩
    obtain ⟨fields, _, rfl, -, -, same⟩ := ofRow_eq_ok_iff.mp success
    cases same
    exact ⟨rfl, _, success⟩
  · rintro ⟨keys, insertion, success⟩
    obtain ⟨fields, cells, rfl, -, -, rfl⟩ := ofRow_eq_ok_iff.mp success
    obtain rfl : fields.keys = columns := keys
    exact ⟨cells, success⟩

/-- So are rows, each on its own. -/
theorem exists_insertedAlone_iff :
    (∃ values, InsertedAlone table columns rows values) ↔
      ∀ row ∈ rows, row.rowKeys = columns ∧
        ∃ insertion, ofRow .insert table row = .ok insertion := by
  induction rows with
  | nil => simp [InsertedAlone]
  | cons row rest ih =>
    rw [List.forall_mem_cons, ← ih, ← exists_ofRow_under_iff]
    constructor
    · rintro ⟨values, each⟩
      obtain ⟨cells, others, here, there, rfl⟩ := List.forall₂_cons_left_iff.mp each
      exact ⟨⟨cells, here⟩, others, there⟩
    · rintro ⟨⟨cells, here⟩, others, there⟩
      exact ⟨cells :: others, .cons here there⟩

/-- Rows can be inserted together when there are any, and each of them can be inserted alone and has
the keys of the first one. -/
theorem exists_ofRows_iff {given : Value} :
    (∃ insertion, ofRows table given = .ok insertion) ↔
      ∃ first rest, given = .list (first :: rest) ∧
        (∀ row ∈ first :: rest, ∃ insertion, ofRow .insert table row = .ok insertion) ∧
        ∀ row ∈ rest, row.rowKeys = first.rowKeys := by
  constructor
  · rintro ⟨insertion, success⟩
    obtain ⟨first, rest, columns, values, rfl, each, -⟩ := ofRows_eq_ok_iff.mp success
    have alone := exists_insertedAlone_iff.mp ⟨values, each⟩
    have first_keys := (alone first List.mem_cons_self).1
    exact ⟨first, rest, rfl, fun row member => (alone row member).2, fun row member =>
      (alone row (List.mem_cons_of_mem first member)).1.trans first_keys.symm⟩
  · rintro ⟨first, rest, rfl, accepted, same⟩
    have keys : ∀ row ∈ first :: rest, row.rowKeys = first.rowKeys :=
      List.forall_mem_cons.mpr ⟨rfl, same⟩
    obtain ⟨values, each⟩ := exists_insertedAlone_iff.mpr fun row member =>
      ⟨keys row member, accepted row member⟩
    exact ⟨_, ofRows_eq_ok_iff.mpr ⟨first, rest, _, values, rfl, each, rfl⟩⟩

/-- The statement of one row ends with its tuple. -/
theorem text_statement_row (cells : List Scalar) :
    (statement ⟨.insert, table, columns, [cells], none⟩).text =
      "INSERT INTO " ++ Name.quote table ++ " " ++ columnList columns ++ " VALUES " ++
        Placeholder.tuple columns.length := by
  simp [statement, text, updateClause_none, InsertVerb.keyword]

/-- The statement of several rows is that of the first one with a tuple for each of the others. -/
theorem statement_cons (cells : List Scalar) (others : List (List Scalar)) :
    statement ⟨.insert, table, columns, cells :: others, none⟩ =
      statement ⟨.insert, table, columns, [cells], none⟩ ++
        ⟨String.join (others.map fun _ => "," ++ Placeholder.tuple columns.length),
          others.flatten⟩ := by
  apply Statement.ext
  · simp [statement, text, updateClause_none, Text.intercalate_cons, Statement.text_append,
      String.append_assoc]
  · simp [statement, Statement.params_append]

end

end Insertion

namespace Compiler

open Insertion

theorem compile_alone (compiler : Compiler) {table : String} {columns : List String}
    {rows : List Value} {values : List (List Scalar)}
    (each : InsertedAlone table columns rows values) :
    List.Forall₂ (fun row alone => compiler.compile (.insert table row) = .ok alone) rows
      (values.map fun cells => Insertion.statement ⟨.insert, table, columns, [cells], none⟩) := by
  refine List.forall₂_map_right_iff.mpr (each.imp fun row cells alone => ?_)
  exact Outcome.map_eq_ok.mpr ⟨_, alone, rfl⟩

/-- Inserting rows together is inserting them one by one: the same rows are accepted when all have
the keys of the first one, and the statement for all is that of the first one with a tuple for each
of the others and with the parameters of every row in turn. One row in a list is treated like the
row, down to its error. -/
theorem bulkInsert_rowwise (compiler : Compiler) (table : String) :
    (∀ rows, (∃ statement, compiler.compile (.bulkInsert table rows) = .ok statement) ↔
      ∃ first rest, rows = .list (first :: rest) ∧
        (∀ row ∈ first :: rest,
          ∃ statement, compiler.compile (.insert table row) = .ok statement) ∧
        ∀ row ∈ rest, row.rowKeys = first.rowKeys) ∧
    (∀ first rest statement,
      compiler.compile (.bulkInsert table (.list (first :: rest))) = .ok statement →
      ∃ head others,
        List.Forall₂ (fun row alone => compiler.compile (.insert table row) = .ok alone)
          (first :: rest) (head :: others) ∧
        head.text = "INSERT INTO " ++ Name.quote table ++ " " ++
          Insertion.columnList first.rowKeys ++ " VALUES " ++
          Placeholder.tuple first.rowKeys.length ∧
        statement.text = head.text ++
          String.join (rest.map fun _ => "," ++ Placeholder.tuple first.rowKeys.length) ∧
        statement.params = (head :: others).flatMap (·.params) ∧
        ((∀ name ∈ table :: first.rowKeys, Unmarked name) →
          statement.placeholderCount = (first :: rest).length * first.rowKeys.length)) ∧
    ∀ row, compiler.compile (.bulkInsert table (.list [row])) =
      compiler.compile (.insert table row) := by
  refine ⟨fun rows => ?_, fun first rest statement success => ?_, fun row => ?_⟩
  · have alone (row : Value) : (∃ statement, compiler.compile (.insert table row) = .ok statement) ↔
        ∃ insertion, ofRow .insert table row = .ok insertion := Outcome.exists_map_eq_ok_iff
    simp only [alone]
    exact Outcome.exists_map_eq_ok_iff.trans exists_ofRows_iff
  · obtain ⟨insertion, read, rfl⟩ := Outcome.map_eq_ok.mp success
    obtain ⟨_, _, columns, values, same, each, rfl⟩ := ofRows_eq_ok_iff.mp read
    cases same
    obtain ⟨rfl, -⟩ := exists_insertedAlone_iff.mp ⟨values, each⟩ first List.mem_cons_self
    have heights : (first :: rest).length = values.length := each.length_eq
    have alone := compile_alone compiler each
    obtain ⟨cells, others, here, there, rfl⟩ := List.forall₂_cons_left_iff.mp each
    refine ⟨_, _, alone, Insertion.text_statement_row cells, ?_, ?_, fun unmarked => ?_⟩
    · rw [statement_cons, Statement.text_append, List.map_const', List.map_const',
        there.length_eq]
    · simp [Insertion.statement, List.flatMap_map, List.flatMap_id']
    · have named : ∀ name ∈ names ⟨.insert, table, first.rowKeys, cells :: others, none⟩,
          Unmarked name := by
        simpa [names] using unmarked
      rw [heights]
      exact count_text named
  · rw [compile, compile, ofRows_singleton]

/-- Two rows with the same keys and different values. -/
def sampleRows : List Value :=
  [.map ⟨[("id", .integer 1), ("name", .null)]⟩,
    .map ⟨[("id", .integer 2), ("name", .string "?")]⟩]

theorem bulkInsert_rowwise_sampleRows :
    standard.compile (.bulkInsert "t" (.list sampleRows)) = .ok
        ⟨"INSERT INTO `t` ( `id`,`name` ) VALUES ( ?,? ),( ?,? )",
          [.integer 1, .null, .integer 2, .string "?"]⟩ ∧
      (∀ row ∈ sampleRows, ∃ alone, standard.compile (.insert "t" row) = .ok alone) ∧
      standard.compile (.bulkInsert "t" (.list [.null])) = standard.compile (.insert "t" .null) := by
  have success : standard.compile (.bulkInsert "t" (.list sampleRows)) = .ok
      ⟨"INSERT INTO `t` ( `id`,`name` ) VALUES ( ?,? ),( ?,? )",
        [.integer 1, .null, .integer 2, .string "?"]⟩ := rfl
  obtain ⟨accepted, -, single⟩ := bulkInsert_rowwise standard "t"
  obtain ⟨first, rest, listed, each, -⟩ := (accepted _).mp ⟨_, success⟩
  exact ⟨success, Value.list.inj listed ▸ each, single .null⟩

end Compiler

end ParamSql
