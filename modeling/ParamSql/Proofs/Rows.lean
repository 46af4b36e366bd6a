import Mathlib.Data.List.Forall2
import ParamSql.Assignment
import ParamSql.Insertion.Read
import ParamSql.Proofs.Outcome

/-!
# What rows are read to

An accepted row is a keyed map with scalars under names. An insertion has its keys as columns and
its values, unchanged and in the same order, and every further row of it has the same keys; an
update has an assignment for each of its entries.
-/
namespace ParamSql

namespace Value

/-- The keys of a row. -/
def rowKeys : Value → List String
  | map fields => fields.keys
  | _ => []

/-- The values of a row, in the order of its keys. -/
def rowValues : Value → List Value
  | map fields => fields.values
  | _ => []

/-- The rows of a list of rows. -/
def rowItems : Value → List Value
  | list items => items
  | _ => []

theorem length_rowValues (row : Value) : row.rowValues.length = row.rowKeys.length := by
  cases row <;> simp [rowValues, rowKeys, KeyedMap.values, KeyedMap.keys]

end Value

namespace Insertion

theorem columnNames_eq_ok_iff {row : KeyedMap Value} {columns : List String} :
    columnNames row = .ok columns ↔ columns = row.keys ∧ ∀ name ∈ row.keys, name ≠ "" := by
  simp only [columnNames, Outcome.mapM_eq_ok_iff, Name.require_eq_ok_iff]
  rw [List.forall₂_and_left, and_comm]
  simp only [eq_comm (b := (_ : String)), List.forall₂_eq_eq_eq]
  rw [eq_comm]

/-- The cells of a row are its values when all of them are scalars. -/
theorem cellValues_eq_ok_iff {row : KeyedMap Value} {values : List Scalar} :
    cellValues row = .ok values ↔ row.values = values.map .scalar := by
  simp only [cellValues, Outcome.mapM_eq_ok_iff, Value.requireScalar_eq_ok_iff, KeyedMap.values]
  rw [← List.forall₂_eq_eq_eq, List.forall₂_map_left_iff, List.forall₂_map_right_iff]

theorem readFirstRow_eq_ok_iff {row : Value} {columns : List String} {values : List Scalar} :
    readFirstRow row = .ok (columns, values) ↔
      ∃ fields, row = .map fields ∧ columns = fields.keys ∧ (∀ name ∈ fields.keys, name ≠ "") ∧
        fields.values = values.map .scalar := by
  simp only [readFirstRow, Outcome.bind_eq_ok, Value.requireMap_eq_ok_iff, columnNames_eq_ok_iff,
    cellValues_eq_ok_iff, Outcome.pure_eq, Except.ok.injEq, Prod.mk.injEq]
  constructor
  · rintro ⟨fields, rfl, _, ⟨rfl, named⟩, _, cells, rfl, rfl⟩
    exact ⟨fields, rfl, rfl, named, cells⟩
  · rintro ⟨fields, rfl, rfl, named, cells⟩
    exact ⟨fields, rfl, _, ⟨rfl, named⟩, values, cells, rfl, rfl⟩

theorem readLaterRow_eq_ok_iff {columns : List String} {index : Nat} {row : Value}
    {values : List Scalar} :
    readLaterRow columns index row = .ok values ↔
      ∃ fields, row = .map fields ∧ fields.keys = columns ∧ fields.values = values.map .scalar := by
  simp only [readLaterRow, Outcome.bind_eq_ok, Value.requireMap_eq_ok_iff]
  constructor
  · rintro ⟨fields, rfl, agreed⟩
    split at agreed
    · cases agreed
    · split at agreed
      · cases agreed
      · next same => exact ⟨fields, rfl, Decidable.not_not.mp same, cellValues_eq_ok_iff.mp agreed⟩
  · rintro ⟨fields, rfl, rfl, cells⟩
    have width : fields.size = fields.keys.length := by simp [KeyedMap.size, KeyedMap.keys]
    exact ⟨fields, rfl, by simpa [width] using cellValues_eq_ok_iff.mpr cells⟩

/-- The row has these columns and these values. -/
def Fits (columns : List String) (row : Value) (values : List Scalar) : Prop :=
  row.rowKeys = columns ∧ row.rowValues = values.map .scalar

/-- Every row is as wide as the list of columns. -/
theorem Fits.length_eq {columns : List String} {row : Value} {values : List Scalar}
    (fits : Fits columns row values) : values.length = columns.length := by
  have lengths := row.length_rowValues
  rw [fits.1, fits.2, List.length_map] at lengths
  exact lengths

theorem ofRow_eq_ok_iff {verb : InsertVerb} {table : String} {row : Value} {insertion : Insertion} :
    ofRow verb table row = .ok insertion ↔
      ∃ fields values, row = .map fields ∧ (∀ name ∈ table :: fields.keys, name ≠ "") ∧
        fields.values = values.map .scalar ∧
        insertion = ⟨verb, table, fields.keys, [values], none⟩ := by
  simp only [ofRow, Outcome.bind_eq_ok, Name.require_eq_ok_iff, Prod.exists,
    readFirstRow_eq_ok_iff, Outcome.pure_eq, Except.ok.injEq, List.forall_mem_cons]
  constructor
  · rintro ⟨_, ⟨present, rfl⟩, _, values, ⟨fields, rfl, rfl, named, cells⟩, rfl⟩
    exact ⟨fields, values, rfl, ⟨present, named⟩, cells, rfl⟩
  · rintro ⟨fields, values, rfl, ⟨present, named⟩, cells, rfl⟩
    exact ⟨table, ⟨present, rfl⟩, _, values, ⟨fields, rfl, rfl, named, cells⟩, rfl⟩

theorem fits_of_ofRow {verb : InsertVerb} {table : String} {columns : List String} {row : Value}
    {values : List Scalar} {updates : Option (List ColumnUpdate)}
    (success : ofRow verb table row = .ok ⟨verb, table, columns, [values], updates⟩) :
    Fits columns row values := by
  obtain ⟨fields, _, rfl, -, cells, same⟩ := ofRow_eq_ok_iff.mp success
  cases same
  exact ⟨rfl, cells⟩

/-- Below columns that a first row can have, a later row is read to the values that it would be
inserted with alone. -/
theorem readLaterRow_eq_ok_iff_ofRow {table : String} {columns : List String} {index : Nat}
    {row : Value} {values : List Scalar} (named : ∀ name ∈ table :: columns, name ≠ "") :
    readLaterRow columns index row = .ok values ↔
      ofRow .insert table row = .ok ⟨.insert, table, columns, [values], none⟩ := by
  rw [readLaterRow_eq_ok_iff, ofRow_eq_ok_iff]
  constructor
  · rintro ⟨fields, rfl, rfl, cells⟩
    exact ⟨fields, values, rfl, named, cells, rfl⟩
  · rintro ⟨fields, _, rfl, -, cells, same⟩
    cases same
    exact ⟨fields, rfl, rfl, cells⟩

/-- The values belong to the rows: each row can be inserted alone under these columns, with its
values. -/
def InsertedAlone (table : String) (columns : List String) (rows : List Value)
    (values : List (List Scalar)) : Prop :=
  List.Forall₂ (fun row cells =>
    ofRow .insert table row = .ok ⟨.insert, table, columns, [cells], none⟩) rows values

/-- So are all later rows, whatever their number and the index of the first of them. -/
theorem readLaterRows_eq_ok_iff {table : String} {columns : List String}
    (named : ∀ name ∈ table :: columns, name ≠ "") {index : Nat} {rows : List Value}
    {values : List (List Scalar)} :
    readLaterRows columns index rows = .ok values ↔ InsertedAlone table columns rows values := by
  induction rows generalizing index values with
  | nil => simp [readLaterRows, InsertedAlone, eq_comm]
  | cons row rest ih =>
    simp only [InsertedAlone] at ih
    simp only [readLaterRows, Outcome.bind_eq_ok, readLaterRow_eq_ok_iff_ofRow named, ih,
      Outcome.pure_eq, Except.ok.injEq, InsertedAlone, List.forall₂_cons_left_iff]
    constructor
    · rintro ⟨first, here, others, there, rfl⟩
      exact ⟨first, others, here, there, rfl⟩
    · rintro ⟨first, others, here, there, rfl⟩
      exact ⟨first, here, others, there, rfl⟩

/-- Rows are inserted together when there are any, and each of them can be inserted alone with its
part of the whole insertion. -/
theorem ofRows_eq_ok_iff {table : String} {rows : Value} {insertion : Insertion} :
    ofRows table rows = .ok insertion ↔
      ∃ first rest columns values, rows = .list (first :: rest) ∧
        InsertedAlone table columns (first :: rest) values ∧
        insertion = ⟨.insert, table, columns, values, none⟩ := by
  simp only [ofRows, Outcome.bind_eq_ok, Name.require_eq_ok_iff]
  constructor
  · rintro ⟨table, ⟨present, rfl⟩, listed⟩
    split at listed
    · cases listed
    · next first rest =>
      simp only [Outcome.bind_eq_ok, Prod.exists, readFirstRow_eq_ok_iff, Outcome.pure_eq,
        Except.ok.injEq] at listed
      obtain ⟨_, values, ⟨fields, rfl, rfl, columns, cells⟩, others, later, rfl⟩ := listed
      have named : ∀ name ∈ table :: fields.keys, name ≠ "" :=
        List.forall_mem_cons.mpr ⟨present, columns⟩
      have each : InsertedAlone table fields.keys (.map fields :: rest) (values :: others) :=
        .cons (ofRow_eq_ok_iff.mpr ⟨fields, values, rfl, named, cells, rfl⟩)
          ((readLaterRows_eq_ok_iff named).mp later)
      exact ⟨_, rest, fields.keys, values :: others, rfl, each, rfl⟩
    · cases listed
  · rintro ⟨first, rest, columns, values, rfl, each, rfl⟩
    obtain ⟨cells, others, alone, later, rfl⟩ := List.forall₂_cons_left_iff.mp each
    obtain ⟨fields, _, rfl, named, scalars, same⟩ := ofRow_eq_ok_iff.mp alone
    cases same
    obtain ⟨present, columns⟩ := List.forall_mem_cons.mp named
    have read := readFirstRow_eq_ok_iff.mpr ⟨fields, rfl, rfl, columns, scalars⟩
    have behind : readLaterRows fields.keys 1 rest = .ok others :=
      (readLaterRows_eq_ok_iff named).mpr later
    refine ⟨table, ⟨present, rfl⟩, ?_⟩
    simp [read, behind]

/-- One row in a list is inserted like the row, and rejected for the same fault. -/
theorem ofRows_singleton (table : String) (row : Value) :
    ofRows table (.list [row]) = ofRow .insert table row := by
  simp [ofRows, ofRow, readLaterRows]

/-- The insertion puts the rows into the table: all of them under its columns, which come from the
rows, and without a clause for rows that are there already. No name is empty. -/
structure ReadFrom (insertion : Insertion) (table : String) (rows : List Value) : Prop where
  table_eq : insertion.table = table
  columns_subset : insertion.columns ⊆ rows.flatMap (·.rowKeys)
  present : ∀ name ∈ insertion.table :: insertion.columns, name ≠ ""
  fits : List.Forall₂ (Fits insertion.columns) rows insertion.rows
  updates_eq : insertion.updates = none

theorem readFrom_of_ofRow {verb : InsertVerb} {table : String} {row : Value} {insertion : Insertion}
    (success : ofRow verb table row = .ok insertion) : insertion.ReadFrom table [row] := by
  obtain ⟨fields, values, rfl, named, cells, rfl⟩ := ofRow_eq_ok_iff.mp success
  exact ⟨rfl, by simp [Value.rowKeys], named, .cons ⟨rfl, cells⟩ .nil, rfl⟩

theorem readFrom_of_ofRows {table : String} {rows : Value} {insertion : Insertion}
    (success : ofRows table rows = .ok insertion) : insertion.ReadFrom table rows.rowItems := by
  obtain ⟨first, rest, columns, values, rfl, each, rfl⟩ := ofRows_eq_ok_iff.mp success
  obtain ⟨cells, others, alone, -, rfl⟩ := List.forall₂_cons_left_iff.mp each
  have first_read := readFrom_of_ofRow alone
  have columns_subset := first_read.columns_subset
  refine ⟨rfl, ?_, first_read.present, each.imp fun row values => fits_of_ofRow, rfl⟩
  rw [List.flatMap_singleton] at columns_subset
  exact List.subset_append_of_subset_left _ columns_subset

theorem readOperation_eq_ok_iff {key : String} {value : Value} {update : ColumnUpdate} :
    readOperation (key, value) = .ok update ↔
      ∃ operation, key ≠ "" ∧ value = .string operation ∧ update = .operate key operation := by
  simp only [readOperation, Outcome.bind_eq_ok, Name.require_eq_ok_iff,
    Value.requireString_eq_ok_iff, Outcome.pure_eq, Except.ok.injEq]
  constructor
  · rintro ⟨_, ⟨present, rfl⟩, operation, rfl, rfl⟩
    exact ⟨operation, present, rfl, rfl⟩
  · rintro ⟨operation, present, rfl, rfl⟩
    exact ⟨key, ⟨present, rfl⟩, operation, rfl, rfl⟩

end Insertion

theorem Assignment.ofEntry_eq_ok_iff {entry : String × Value} {assignment : Assignment} :
    ofEntry entry = .ok assignment ↔
      entry.1 ≠ "" ∧ entry = (assignment.column, .scalar assignment.value) := by
  obtain ⟨key, value⟩ := entry
  obtain ⟨column, scalar⟩ := assignment
  simp only [ofEntry, Outcome.bind_eq_ok, Name.require_eq_ok_iff, Value.requireScalar_eq_ok_iff,
    Outcome.pure_eq, Except.ok.injEq, mk.injEq, Prod.mk.injEq]
  constructor
  · rintro ⟨_, ⟨present, rfl⟩, _, rfl, rfl, rfl⟩
    exact ⟨present, rfl, rfl⟩
  · rintro ⟨present, rfl, rfl⟩
    exact ⟨key, ⟨present, rfl⟩, scalar, rfl, rfl, rfl⟩

/-- The assignments of an update have the keys and the values of its row; no key is empty. -/
theorem Assignment.entries_of_readAll {row : Value} {assignments : List Assignment}
    (success : readAll row = .ok assignments) :
    row.rowKeys = assignments.map (·.column) ∧
      row.rowValues = assignments.map (.scalar ·.value) ∧ ∀ name ∈ row.rowKeys, name ≠ "" := by
  obtain ⟨⟨entries⟩, mapped, each⟩ := Outcome.bind_eq_ok.mp success
  obtain rfl := Value.requireMap_eq_ok_iff.mp mapped
  have described := Outcome.mapM_eq_ok_iff.mp each
  simp only [Assignment.ofEntry_eq_ok_iff] at described
  obtain ⟨present, same⟩ := (List.forall₂_and_left _ _).mp described
  rw [← List.forall₂_map_right_iff, List.forall₂_eq_eq_eq] at same
  subst same
  refine ⟨?_, ?_, List.forall_mem_map.mpr present⟩ <;>
    simp [Value.rowKeys, Value.rowValues, KeyedMap.keys, KeyedMap.values]

end ParamSql
