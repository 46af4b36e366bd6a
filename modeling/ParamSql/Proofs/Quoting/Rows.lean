import ParamSql.Proofs.Compiled
import ParamSql.Proofs.Quoting.Filter
import ParamSql.Proofs.Quoting.Names
import ParamSql.Proofs.Rowwise

/-!
# Rows that can be told from a text

As long as no name has a backtick, the text of a statement that writes rows shows into which table
they go and under which columns, and for a list of rows how many there are. A name with commas,
brackets or question marks is not taken for several, nor for the end of a list.
-/
namespace ParamSql

open Text

/-- The names that the update of a column quotes: its column, twice. -/
def ColumnUpdate.quoted (update : ColumnUpdate) : List String := [update.column, update.column]

theorem ColumnUpdate.quotes_text {update : ColumnUpdate}
    (undelimited : ∀ text ∈ update.names, Undelimited text) : Quotes update.quoted update.text := by
  have column := Quotes.quote (undelimited _ update.column_mem_names)
  cases update with
  | overwrite name =>
    have taken : Quotes [] " = VALUES(" := .of_plain (by decide)
    have closing : Quotes [] ")" := .of_plain (by decide)
    exact ((column.append taken).append column).append closing
  | operate name operation =>
    have equals : Quotes [] " = " := .of_plain (by decide)
    have space : Quotes [] " " := .of_plain (by decide)
    have operated : Quotes [] operation := .of_plain (undelimited operation (by simp [names]))
    exact (((column.append equals).append column).append space).append operated

namespace Insertion

theorem quotes_columnList {columns : List String}
    (undelimited : ∀ name ∈ columns, Undelimited name) : Quotes columns (columnList columns) := by
  have opening : Quotes [] "( " := .of_plain (by decide)
  have closing : Quotes [] " )" := .of_plain (by decide)
  have listed : Quotes (columns.flatMap fun name => [name])
      (",".intercalate (columns.map Name.quote)) :=
    .intercalate (by decide) fun name member => .quote (undelimited name member)
  have whole := (opening.append listed).append closing
  rwa [List.flatMap_singleton', List.nil_append, List.append_nil] at whole

theorem quotes_updateClause {updates : Option (List ColumnUpdate)}
    (undelimited : ∀ update ∈ updates.getD [], ∀ text ∈ update.names, Undelimited text) :
    Quotes ((updates.getD []).flatMap ColumnUpdate.quoted) (updateClause updates) := by
  cases updates with
  | none =>
    rw [updateClause_none]
    exact .of_plain avoids_empty
  | some updates =>
    have keyword : Quotes [] " ON DUPLICATE KEY UPDATE " := .of_plain (by decide +kernel)
    rw [updateClause_some]
    exact keyword.append (.intercalate (by decide) fun update member =>
      update.quotes_text (undelimited update member))

/-- The names in the text of an insertion: its table, its columns, and each column that is updated
twice. -/
theorem quotes_text {insertion : Insertion}
    (undelimited : ∀ text ∈ insertion.names, Undelimited text) :
    Quotes (insertion.table :: (insertion.columns ++
      (insertion.updates.getD []).flatMap ColumnUpdate.quoted)) insertion.text := by
  obtain ⟨table, others⟩ := List.forall_mem_cons.mp undelimited
  obtain ⟨columns, updates⟩ := List.forall_mem_append.mp others
  have verb : Quotes [] insertion.verb.keyword := .of_plain (by cases insertion.verb <;> decide)
  have space : Quotes [] " " := .of_plain (by decide)
  have values : Quotes [] " VALUES " := .of_plain (by decide)
  have tuples : Quotes [] (",".intercalate (insertion.rows.map fun _ =>
      Placeholder.tuple insertion.columns.length)) := by
    refine .of_plain (avoids_intercalate (by decide) (List.forall_mem_map.mpr fun row member => ?_))
    exact Placeholder.undelimited_tuple _
  have clause := quotes_updateClause (List.forall_mem_flatMap.mp updates)
  have head := ((verb.append space).append (.quote table)).append space
  have opening := (head.append (quotes_columnList columns)).append values
  unfold text
  convert (opening.append tuples).append clause using 1
  simp

/-- Tuples with commas between them tell how many they are. -/
theorem length_eq_of_tuples_eq {width count number : Nat} (some : count ≠ 0) (others : number ≠ 0)
    (same : ",".intercalate (List.replicate count (Placeholder.tuple width)) =
      ",".intercalate (List.replicate number (Placeholder.tuple width))) : count = number := by
  obtain ⟨count, rfl⟩ := Nat.exists_eq_succ_of_ne_zero some
  obtain ⟨number, rfl⟩ := Nat.exists_eq_succ_of_ne_zero others
  have lengths := congrArg String.length same
  rw [List.replicate_succ, List.replicate_succ, intercalate_cons, intercalate_cons] at lengths
  simp only [String.length_append, String.length_join, List.map_replicate, List.sum_replicate_nat,
    Nat.add_left_cancel_iff] at lengths
  have wide : 0 < ",".length + (Placeholder.tuple width).length := Nat.add_pos_left (by decide) _
  rw [Nat.eq_of_mul_eq_mul_right wide lengths]

/-- Columns that are listed first, and then as often again in one text as in the other, are the same
when all the names are. -/
theorem columns_eq_of_names_eq {columns others more rest : List String} {times : Nat}
    (same : columns ++ more = others ++ rest) (repeated : more.length = times * columns.length)
    (likewise : rest.length = times * others.length) : columns = others := by
  have lengths : (1 + times) * columns.length = (1 + times) * others.length := by
    have whole := congrArg List.length same
    rw [List.length_append, List.length_append, repeated, likewise] at whole
    rw [Nat.add_mul, Nat.add_mul, Nat.one_mul, Nat.one_mul, whole]
  have wide : 0 < 1 + times := by omega
  exact (List.append_inj same (Nat.eq_of_mul_eq_mul_left wide lengths)).1

/-- The clause that overwrites all columns of rows that are there already, or none. -/
def overwritingClause (overwrites : Bool) (columns : List String) : Option (List ColumnUpdate) :=
  if overwrites then some (columns.map .overwrite) else none

theorem length_overwritten (columns : List String) :
    ((columns.map ColumnUpdate.overwrite).flatMap ColumnUpdate.quoted).length =
      2 * columns.length := by
  induction columns with
  | nil => rfl
  | cons column rest ih =>
    rw [List.map_cons, List.flatMap_cons, List.length_append, ih, List.length_cons]
    have named : (ColumnUpdate.overwrite column).quoted.length = 2 := rfl
    omega

/-- An insertion names its table, its columns, and each of these twice more when it overwrites. -/
theorem quotes_overwriting {insertion : Insertion} {overwrites : Bool}
    (clause : insertion.updates = overwritingClause overwrites insertion.columns)
    (undelimited : ∀ name ∈ insertion.table :: insertion.columns, Undelimited name) :
    ∃ more, more.length = (if overwrites then 2 else 0) * insertion.columns.length ∧
      Quotes (insertion.table :: (insertion.columns ++ more)) insertion.text := by
  have shown : ∀ text ∈ insertion.names, Undelimited text := by
    cases overwrites with
    | false => simpa [names, clause, overwritingClause] using undelimited
    | true => simpa [names, clause, overwritingClause, ColumnUpdate.names] using undelimited
  refine ⟨_, ?_, quotes_text shown⟩
  rw [clause]
  cases overwrites with
  | false => exact (Nat.zero_mul _).symm
  | true => exact length_overwritten insertion.columns

theorem text_overwriting {insertion : Insertion} {overwrites : Bool}
    (clause : insertion.updates = overwritingClause overwrites insertion.columns) :
    insertion.text = insertion.verb.keyword ++ " " ++ Name.quote insertion.table ++ " " ++
      columnList insertion.columns ++ " VALUES " ++ ",".intercalate
        (List.replicate insertion.rows.length (Placeholder.tuple insertion.columns.length)) ++
      updateClause (overwritingClause overwrites insertion.columns) := by
  rw [text, clause, List.map_const']

/-- The texts of two insertions of one kind are equal when they write the same number of rows into
the same table under the same columns. -/
theorem text_eq_iff {first second : Insertion} {overwrites : Bool} (verb : first.verb = second.verb)
    (clause : first.updates = overwritingClause overwrites first.columns)
    (likewise : second.updates = overwritingClause overwrites second.columns)
    (filled : first.rows ≠ []) (other : second.rows ≠ [])
    (undelimited : ∀ name ∈ first.table :: first.columns, Undelimited name)
    (plain : ∀ name ∈ second.table :: second.columns, Undelimited name) :
    first.text = second.text ↔ first.table = second.table ∧ first.columns = second.columns ∧
      first.rows.length = second.rows.length := by
  have names : first.text = second.text →
      first.table = second.table ∧ first.columns = second.columns := by
    intro same
    obtain ⟨more, repeated, quotes⟩ := quotes_overwriting clause undelimited
    obtain ⟨rest, also, others⟩ := quotes_overwriting likewise plain
    obtain ⟨table, columns⟩ := List.cons.inj (quotes.unique same others)
    exact ⟨table, columns_eq_of_names_eq columns repeated also⟩
  constructor
  · intro same
    obtain ⟨table, columns⟩ := names same
    rw [text_overwriting clause, text_overwriting likewise, verb, table, columns,
      String.append_left_inj, String.append_right_inj] at same
    have filled := mt List.length_eq_zero_iff.mp filled
    have other := mt List.length_eq_zero_iff.mp other
    exact ⟨table, columns, length_eq_of_tuples_eq filled other same⟩
  · rintro ⟨table, columns, counted⟩
    rw [text_overwriting clause, text_overwriting likewise, verb, table, columns, counted]

/-- The insertion writes the rows into the table, and overwrites those that are there already or
not. There are rows, and each of them has the columns as keys. -/
structure Writes (insertion : Insertion) (overwrites : Bool) (table : String) (rows : List Value) :
    Prop where
  table_eq : insertion.table = table
  keys_eq : rows.map (·.rowKeys) = List.replicate insertion.rows.length insertion.columns
  filled : insertion.rows ≠ []
  clause : insertion.updates = overwritingClause overwrites insertion.columns

theorem ReadFrom.keys_eq {insertion : Insertion} {table : String} {rows : List Value}
    (read : insertion.ReadFrom table rows) :
    rows.map (·.rowKeys) = List.replicate insertion.rows.length insertion.columns := by
  obtain ⟨_, _, columns, values, _⟩ := insertion
  have fits : List.Forall₂ (Fits columns) rows values := read.fits
  clear read
  induction fits with
  | nil => rfl
  | cons first _ ih => rw [List.map_cons, ih, first.1, List.length_cons, List.replicate_succ]

theorem ReadFrom.writes {insertion : Insertion} {table : String} {rows : List Value}
    (read : insertion.ReadFrom table rows) (filled : insertion.rows ≠ []) :
    insertion.Writes false table rows ∧ insertion.overwriting.Writes true table rows :=
  ⟨⟨read.table_eq, read.keys_eq, filled, read.updates_eq⟩,
    ⟨read.table_eq, read.keys_eq, filled, rfl⟩⟩

theorem Writes.columns_subset {insertion : Insertion} {overwrites : Bool} {table : String}
    {rows : List Value} (writes : insertion.Writes overwrites table rows) :
    insertion.table :: insertion.columns ⊆ table :: rows.flatMap (·.rowKeys) := by
  have listed : insertion.columns ∈ rows.map (·.rowKeys) := by
    rw [writes.keys_eq]
    exact List.mem_replicate.mpr ⟨mt List.length_eq_zero_iff.mp writes.filled, rfl⟩
  rw [writes.table_eq]
  refine List.cons_subset_cons table fun column member => ?_
  rw [List.flatMap_def]
  exact List.mem_flatten_of_mem listed member

/-- Insertions of one kind have the same text when their tables are the same and their rows have the
same keys. -/
theorem Writes.text_eq_iff {first second : Insertion} {overwrites : Bool} {table name : String}
    {rows others : List Value} (verb : first.verb = second.verb)
    (writes : first.Writes overwrites table rows) (also : second.Writes overwrites name others)
    (undelimited : ∀ text ∈ table :: rows.flatMap (·.rowKeys), Undelimited text)
    (plain : ∀ text ∈ name :: others.flatMap (·.rowKeys), Undelimited text) :
    first.text = second.text ↔
      table = name ∧ rows.map (·.rowKeys) = others.map (·.rowKeys) := by
  have height := mt List.length_eq_zero_iff.mp writes.filled
  rw [Insertion.text_eq_iff verb writes.clause also.clause writes.filled also.filled
    (fun text member => undelimited text (writes.columns_subset member))
    (fun text member => plain text (also.columns_subset member)), writes.table_eq, also.table_eq,
    writes.keys_eq, also.keys_eq, List.replicate_inj, or_iff_right height,
    and_comm (a := first.columns = second.columns)]

end Insertion

namespace Compiler

/-- The text of an update up to its tail. -/
theorem text_updateHead {table : String} {row : Value} {head : Statement}
    (success : updateHead table row = .ok head) :
    head.text = "UPDATE " ++ Name.quote table ++ " SET " ++
      ",".intercalate (row.rowKeys.map fun column => Name.quote column ++ " = ?") := by
  obtain ⟨_, checked, rest⟩ := Outcome.bind_eq_ok.mp success
  obtain ⟨assignments, read, same⟩ := Outcome.bind_eq_ok.mp rest
  obtain ⟨-, rfl⟩ := Name.require_eq_ok_iff.mp checked
  cases same
  rw [(Assignment.entries_of_readAll read).1, List.map_map]
  rfl

/-- It names its table and its columns. -/
theorem quotes_updateHead {table : String} {row : Value} {head : Statement}
    (undelimited : ∀ text ∈ table :: row.rowKeys, Undelimited text)
    (success : updateHead table row = .ok head) : Quotes (table :: row.rowKeys) head.text := by
  obtain ⟨named, columns⟩ := List.forall_mem_cons.mp undelimited
  have update : Quotes [] "UPDATE " := .of_plain (by decide)
  have set : Quotes [] " SET " := .of_plain (by decide)
  have bound : Quotes [] " = ?" := .of_plain (by decide)
  have listed : Quotes (row.rowKeys.flatMap fun column => [column])
      (",".intercalate (row.rowKeys.map fun column => Name.quote column ++ " = ?")) :=
    .intercalate (by decide) fun column member =>
      (Quotes.quote (columns column member)).append bound
  rw [text_updateHead success]
  have whole := ((update.append (.quote named)).append set).append listed
  rwa [List.flatMap_singleton'] at whole

end Compiler

/-- The forms of requests that write rows and nothing else. -/
inductive RowForm where
  | insert | replace | upsert | bulkInsert | update
  deriving DecidableEq, Repr

namespace RowForm

/-- The request of this form, for a table and what is given as a row or as a list of rows. -/
def request : RowForm → String → Value → Request
  | insert, table, given => .insert table given
  | replace, table, given => .replace table given
  | upsert, table, given => .upsert table given
  | bulkInsert, table, given => .bulkInsert table given
  | update, table, given => .update table given .none

/-- The rows that are given. -/
def rows : RowForm → Value → List Value
  | bulkInsert, given => given.rowItems
  | _, given => [given]

/-- How the insertion begins, unless the form is an update. -/
def verb : RowForm → InsertVerb
  | replace => .replace
  | _ => .insert

/-- Whether rows that are there already are overwritten. -/
def overwrites : RowForm → Bool
  | upsert => true
  | _ => false

end RowForm

namespace Compiler

open Insertion

/-- Except for updates, the statement is that of an insertion of the rows. -/
theorem writes_of_compile {compiler : Compiler} {form : RowForm} {table : String} {given : Value}
    {statement : Statement} (inserts : form ≠ .update)
    (success : compiler.compile (form.request table given) = .ok statement) :
    ∃ insertion : Insertion, insertion.verb = form.verb ∧
      insertion.Writes form.overwrites table (form.rows given) ∧
      statement.text = insertion.text := by
  cases form with
  | insert | replace =>
    obtain ⟨insertion, read, rfl⟩ := Outcome.map_eq_ok.mp success
    obtain ⟨_, cells, -, -, -, rfl⟩ := ofRow_eq_ok_iff.mp read
    exact ⟨_, rfl, ((readFrom_of_ofRow read).writes (List.cons_ne_nil cells [])).1, rfl⟩
  | upsert =>
    obtain ⟨insertion, read, rfl⟩ := Outcome.map_eq_ok.mp success
    obtain ⟨_, cells, -, -, -, rfl⟩ := ofRow_eq_ok_iff.mp read
    exact ⟨_, rfl, ((readFrom_of_ofRow read).writes (List.cons_ne_nil cells [])).2, rfl⟩
  | bulkInsert =>
    obtain ⟨insertion, read, rfl⟩ := Outcome.map_eq_ok.mp success
    obtain ⟨_, _, _, _, rfl, each, rfl⟩ := ofRows_eq_ok_iff.mp read
    obtain ⟨cells, others, -, -, rfl⟩ := List.forall₂_cons_left_iff.mp each
    exact ⟨_, rfl, ((readFrom_of_ofRows read).writes (List.cons_ne_nil cells others)).1, rfl⟩
  | update => exact absurd rfl inserts

/-- An update without a tail is its head. -/
theorem head_of_compile {compiler : Compiler} {table : String} {row : Value} {statement : Statement}
    (success : compiler.compile (.update table row .none) = .ok statement) :
    updateHead table row = .ok statement := by
  obtain ⟨head, headed, rest⟩ := Outcome.bind_eq_ok.mp success
  obtain ⟨tail, ended, same⟩ := Outcome.bind_eq_ok.mp rest
  rw [Restriction.compile_none] at ended
  cases ended
  cases same
  rwa [Statement.append_empty]

/-- As long as no name of a table or a column has a backtick, two accepted requests of one form that
writes rows have the same text exactly when they are for the same table and for the same number of
rows, with the same keys in the same order. -/
theorem rowStatements_text_eq_iff {compiler other : Compiler} {form : RowForm} {table name : String}
    {given changed : Value} {first second : Statement}
    (success : compiler.compile (form.request table given) = .ok first)
    (also : other.compile (form.request name changed) = .ok second)
    (undelimited : ∀ text ∈ table :: (form.rows given).flatMap (·.rowKeys), Undelimited text)
    (plain : ∀ text ∈ name :: (form.rows changed).flatMap (·.rowKeys), Undelimited text) :
    first.text = second.text ↔
      table = name ∧ (form.rows given).map (·.rowKeys) = (form.rows changed).map (·.rowKeys) := by
  by_cases updates : form = .update
  · subst updates
    have headed := head_of_compile success
    have likewise := head_of_compile also
    simp only [RowForm.rows, List.flatMap_singleton] at undelimited plain
    simp only [RowForm.rows, List.map_cons, List.map_nil, List.cons.injEq, and_true]
    constructor
    · intro same
      have quotes := quotes_updateHead undelimited headed
      exact List.cons.inj (quotes.unique same (quotes_updateHead plain likewise))
    · rintro ⟨rfl, keys⟩
      rw [text_updateHead headed, text_updateHead likewise, keys]
  · obtain ⟨insertion, verb, writes, same⟩ := writes_of_compile updates success
    obtain ⟨changed, changed_verb, others, changed_same⟩ := writes_of_compile updates also
    rw [same, changed_same]
    exact writes.text_eq_iff (verb.trans changed_verb.symm) others undelimited plain

/-- A row with a name that looks like two, and one that looks like the rest of the statement. -/
def misleadingRow : Value := .map ⟨[("id,name", .integer 1), ("x ) VALUES ( ?,? )", .null)]⟩

theorem rowStatements_text_eq_iff_misleading :
    let once := Statement.mk "INSERT INTO `t` ( `id,name`,`x ) VALUES ( ?,? )` ) VALUES ( ?,? )"
      [.integer 1, .null]
    let twice := Statement.mk
      "INSERT INTO `t` ( `id,name`,`x ) VALUES ( ?,? )` ) VALUES ( ?,? ),( ?,? )"
      [.integer 1, .null, .integer 1, .null]
    standard.compile (RowForm.bulkInsert.request "t" (.list [misleadingRow])) = .ok once ∧
      standard.compile (RowForm.bulkInsert.request "t" (.list [misleadingRow, misleadingRow])) =
        .ok twice ∧
      (∀ text ∈ ["t", "id,name", "x ) VALUES ( ?,? )"], Undelimited text) ∧
      once.text ≠ twice.text := by
  intro once twice
  have success : standard.compile (RowForm.bulkInsert.request "t" (.list [misleadingRow])) =
      .ok once := by rfl
  have also : standard.compile (RowForm.bulkInsert.request "t"
      (.list [misleadingRow, misleadingRow])) = .ok twice := by rfl
  have undelimited : ∀ text ∈ ["t", "id,name", "x ) VALUES ( ?,? )"], Undelimited text := by decide
  have determined := rowStatements_text_eq_iff success also undelimited (by decide)
  exact ⟨success, also, undelimited, fun same => absurd (determined.mp same).2 (by decide)⟩

end Compiler

end ParamSql
