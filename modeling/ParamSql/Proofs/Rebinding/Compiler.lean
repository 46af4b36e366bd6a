import ParamSql.Compiler
import ParamSql.Proofs.Rebinding.Filter

/-!
# Rebinding the values of a request

Bound values never influence the text of a statement: a request with other values in its bound
positions leads to the same text with those values as parameters, or fails with the same fault.
-/
namespace ParamSql.Rebinding

variable (f : Rebinding)

/-- The rows of an insertion rebound. -/
def insertion (given : Insertion) : Insertion :=
  { given with rows := given.rows.map (List.map f.apply) }

/-- The value of an assignment rebound. -/
def assignment (given : Assignment) : Assignment := ⟨given.column, f.apply given.value⟩

theorem statement_insertion (given : Insertion) :
    (f.insertion given).statement = f.statement given.statement := by
  apply Statement.ext
  · simp only [Insertion.statement, Insertion.text, insertion, statement, List.map_map]
    rfl
  · simp only [Insertion.statement, insertion, statement, List.map_flatten]

theorem requireMap_row (context : String) (given : Value) :
    (f.row given).requireMap context = f.fields <$> given.requireMap context := by
  cases given <;> rfl

theorem keys_fields (given : KeyedMap Value) : (f.fields given).keys = given.keys := by
  simp [KeyedMap.keys, fields, Function.comp_def]

theorem size_fields (given : KeyedMap Value) : (f.fields given).size = given.size := by
  simp [KeyedMap.size, fields]

theorem cellValues_fields (given : KeyedMap Value) :
    Insertion.cellValues (f.fields given) = List.map f.apply <$> Insertion.cellValues given :=
  Outcome.mapM_map (fun (column, value) => f.requireScalar_cell column value) given.entries

theorem readFirstRow_row (given : Value) :
    Insertion.readFirstRow (f.row given) =
      (fun (columns, values) => (columns, values.map f.apply)) <$>
        Insertion.readFirstRow given := by
  simp only [Insertion.readFirstRow, requireMap_row, Insertion.columnNames, keys_fields,
    cellValues_fields, bind_map_left, map_bind, map_pure]

theorem readLaterRow_row (columns : List String) (index : Nat) (given : Value) :
    Insertion.readLaterRow columns index (f.row given) =
      List.map f.apply <$> Insertion.readLaterRow columns index given := by
  simp only [Insertion.readLaterRow, requireMap_row, bind_map_left, map_bind, size_fields,
    keys_fields, cellValues_fields]
  refine bind_congr fun fields => ?_
  split
  · rfl
  · split <;> rfl

theorem readLaterRows_rows (columns : List String) (index : Nat) (given : List Value) :
    Insertion.readLaterRows columns index (given.map f.row) =
      List.map (List.map f.apply) <$> Insertion.readLaterRows columns index given := by
  induction given generalizing index with
  | nil => rfl
  | cons row rest ih =>
    simp only [List.map_cons, Insertion.readLaterRows, readLaterRow_row, ih, bind_map_left,
      map_bind, map_pure]

theorem ofRow_row (verb : InsertVerb) (table : String) (given : Value) :
    Insertion.ofRow verb table (f.row given) =
      f.insertion <$> Insertion.ofRow verb table given := by
  simp only [Insertion.ofRow, readFirstRow_row, bind_map_left, map_bind, map_pure]
  rfl

theorem ofRows_rows (table : String) (given : Value) :
    Insertion.ofRows table (f.rows given) = f.insertion <$> Insertion.ofRows table given := by
  simp only [Insertion.ofRows, map_bind]
  refine bind_congr fun table => ?_
  cases given with
  | scalar value => rfl
  | map fields => rfl
  | list items =>
    cases items with
    | nil => rfl
    | cons first rest =>
      simp only [rows, List.map_cons, readFirstRow_row, readLaterRows_rows, bind_map_left,
        map_bind, map_pure]
      rfl

theorem ofEntry_cell (entry : String × Value) :
    Assignment.ofEntry (entry.1, f.cell entry.2) = f.assignment <$> Assignment.ofEntry entry := by
  obtain ⟨key, value⟩ := entry
  simp only [Assignment.ofEntry, requireScalar_cell, bind_map_left, map_bind, map_pure]
  rfl

theorem readAll_row (given : Value) :
    Assignment.readAll (f.row given) = List.map f.assignment <$> Assignment.readAll given := by
  simp only [Assignment.readAll, requireMap_row, bind_map_left, map_bind]
  exact bind_congr fun fields => Outcome.mapM_map f.ofEntry_cell fields.entries

theorem updateHead_row (table : String) (given : Value) :
    Compiler.updateHead table (f.row given) = f.statement <$> Compiler.updateHead table given := by
  simp only [Compiler.updateHead, readAll_row, bind_map_left, map_bind, map_pure]
  simp [statement, assignment, Assignment.text, Function.comp_def]

theorem upsertWith_row (table : String) (row operations : Value) :
    Compiler.upsertWith table (f.row row) operations =
      f.statement <$> Compiler.upsertWith table row operations := by
  simp only [Compiler.upsertWith, ofRow_row, bind_map_left, map_bind, map_pure,
    ← statement_insertion]
  rfl

/-- Bound values never influence the text of a statement: whether a request is accepted, with
which text, or for which fault it is rejected, is the same for all values in its bound positions,
and the parameters are those values. -/
theorem compile_rebound (compiler : Compiler) (request : Request) :
    compiler.compile (f.request request) = (compiler.compile request).map f.statement := by
  change _ = f.statement <$> compiler.compile request
  have inserted (outcome : Except Error Insertion) :
      (f.insertion <$> outcome).map (·.statement) =
        f.statement <$> outcome.map (·.statement) := by
    cases outcome with
    | error fault => rfl
    | ok given => exact congrArg Except.ok (f.statement_insertion given)
  have overwritten (outcome : Except Error Insertion) :
      (f.insertion <$> outcome).map (·.overwriting.statement) =
        f.statement <$> outcome.map (·.overwriting.statement) := by
    cases outcome with
    | error fault => rfl
    | ok given => exact congrArg Except.ok (f.statement_insertion given.overwriting)
  cases request with
  | insert table row => simp only [request, Compiler.compile, ofRow_row, inserted]
  | replace table row => simp only [request, Compiler.compile, ofRow_row, inserted]
  | bulkInsert table rows => simp only [request, Compiler.compile, ofRows_rows, inserted]
  | upsert table row =>
    simp only [request, Compiler.compile, ofRow_row, overwritten]
  | upsertWith table row operations => exact f.upsertWith_row table row operations
  | update table row given =>
    simp only [request, Compiler.compile, updateHead_row, compile_restriction, bind_map_left,
      map_bind, map_pure, statement_append]
  | select table fields given =>
    simp only [request, Compiler.compile, Compiler.selectHead, compile_restriction, bind_assoc,
      pure_bind, bind_map_left, map_bind, map_pure, statement_append, statement_ofText]
  | delete table given =>
    simp only [request, Compiler.compile, Compiler.deleteHead, compile_restriction, bind_assoc,
      pure_bind, bind_map_left, map_bind, map_pure, statement_append, statement_ofText]
  | restrict given prefixed => exact f.compile_restriction compiler.scope prefixed given

/-- Every integer and every string becomes the same string. -/
def masked : Rebinding where
  apply
    | .integer _ => .string "*"
    | .string _ => .string "*"
    | other => other
  null := rfl
  boolean _ := rfl
  integer _ := .inr rfl
  string _ := .inr rfl

/-- Masking changes the parameters of an update with a nested filter, and nothing else. -/
theorem compile_rebound_masked :
    Compiler.standard.compile (masked.request (.update "t"
        (.map ⟨[("a", .integer 1), ("b", .null)]⟩)
        ⟨some (.map ⟨[("c", .string "x"), ("-or", .list [.string "d",
          .map ⟨[("e", .map ⟨[("-in", .list [.integer 2, .string "y"])]⟩)]⟩])]⟩), .none⟩)) =
      .ok ⟨"UPDATE `t` SET `a` = ?,`b` = ? WHERE ( `c` = ? AND ( `d` = ? OR ( `e` IN ( ?,? ) ) ) )",
        [.string "*", .null, .string "*", .string "*", .string "*"]⟩ := by
  rw [compile_rebound]
  rfl

end ParamSql.Rebinding
