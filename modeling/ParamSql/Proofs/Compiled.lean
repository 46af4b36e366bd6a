import ParamSql.Compiler
import ParamSql.Proofs.Rows

/-!
# Accepted requests

What an accepted request was read to, and which statement that is. A property of all statements is
proved form by form from here.
-/
namespace ParamSql.Compiler

/-- The request is accepted, and leads to the statement. -/
inductive Compiled (compiler : Compiler) : Request → Statement → Prop
  | insert {table : String} {row : Value} {insertion : Insertion}
      (read : insertion.ReadFrom table [row]) :
      Compiled compiler (.insert table row) insertion.statement
  | replace {table : String} {row : Value} {insertion : Insertion}
      (read : insertion.ReadFrom table [row]) :
      Compiled compiler (.replace table row) insertion.statement
  | bulkInsert {table : String} {rows : Value} {insertion : Insertion}
      (read : insertion.ReadFrom table rows.rowItems) :
      Compiled compiler (.bulkInsert table rows) insertion.statement
  | upsert {table : String} {row : Value} {insertion : Insertion}
      (read : insertion.ReadFrom table [row]) :
      Compiled compiler (.upsert table row) insertion.overwriting.statement
  | upsertWith {table : String} {row operations : Value} {insertion : Insertion}
      {updates : List ColumnUpdate} (read : insertion.ReadFrom table [row])
      (operated : Insertion.readOperations operations = .ok updates) :
      Compiled compiler (.upsertWith table row operations)
        (Insertion.statement { insertion with updates := some updates })
  | update {table : String} {row : Value} {given : Restriction} {head tail : Statement}
      (headed : updateHead table row = .ok head)
      (ended : given.compile compiler.scope false = .ok tail) :
      Compiled compiler (.update table row given) (head ++ tail)
  | select {table : Value} {fields : Option Value} {given : Restriction} {head tail : Statement}
      {scope : Scope} (headed : compiler.selectHead table fields = .ok (head, scope))
      (ended : given.compile scope true = .ok tail) :
      Compiled compiler (.select table fields given) (head ++ tail)
  | delete {table : String} {given : Restriction} {head tail : Statement}
      (headed : deleteHead table = .ok head)
      (ended : given.compile compiler.scope false = .ok tail) :
      Compiled compiler (.delete table given) (head ++ tail)
  | restrict {given : Restriction} {prefixed : Bool} {statement : Statement}
      (ended : given.compile compiler.scope prefixed = .ok statement) :
      Compiled compiler (.restrict given prefixed) statement

theorem compiled_of_compile {compiler : Compiler} {request : Request} {statement : Statement}
    (success : compiler.compile request = .ok statement) : Compiled compiler request statement := by
  cases request with
  | insert table row =>
    obtain ⟨insertion, read, rfl⟩ := Outcome.map_eq_ok.mp success
    exact .insert (Insertion.readFrom_of_ofRow read)
  | replace table row =>
    obtain ⟨insertion, read, rfl⟩ := Outcome.map_eq_ok.mp success
    exact .replace (Insertion.readFrom_of_ofRow read)
  | bulkInsert table rows =>
    obtain ⟨insertion, read, rfl⟩ := Outcome.map_eq_ok.mp success
    exact .bulkInsert (Insertion.readFrom_of_ofRows read)
  | upsert table row =>
    obtain ⟨insertion, read, rfl⟩ := Outcome.map_eq_ok.mp success
    exact .upsert (Insertion.readFrom_of_ofRow read)
  | upsertWith table row operations =>
    obtain ⟨insertion, read, rest⟩ := Outcome.bind_eq_ok.mp success
    obtain ⟨updates, operated, same⟩ := Outcome.bind_eq_ok.mp rest
    cases same
    exact .upsertWith (Insertion.readFrom_of_ofRow read) operated
  | update table row given =>
    obtain ⟨head, headed, rest⟩ := Outcome.bind_eq_ok.mp success
    obtain ⟨tail, ended, same⟩ := Outcome.bind_eq_ok.mp rest
    cases same
    exact .update headed ended
  | select table fields given =>
    obtain ⟨⟨head, scope⟩, headed, rest⟩ := Outcome.bind_eq_ok.mp success
    obtain ⟨tail, ended, same⟩ := Outcome.bind_eq_ok.mp rest
    cases same
    exact .select headed ended
  | delete table given =>
    obtain ⟨head, headed, rest⟩ := Outcome.bind_eq_ok.mp success
    obtain ⟨tail, ended, same⟩ := Outcome.bind_eq_ok.mp rest
    cases same
    exact .delete headed ended
  | restrict given prefixed => exact .restrict success

end ParamSql.Compiler
