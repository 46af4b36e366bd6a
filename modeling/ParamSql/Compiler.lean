import ParamSql.Assignment
import ParamSql.Insertion.Read
import ParamSql.Insertion.Render
import ParamSql.Projection.Render
import ParamSql.Request
import ParamSql.TableRef.Render

/-!
# The compiler

Requests become statements with placeholders. A compiler is nothing but the alias that it gives
to the base table of a statement; each statement is compiled in a scope of its own, so that no
request can influence another.
-/
namespace ParamSql

structure Compiler where
  defaultAlias : String
  deriving DecidableEq, Repr

namespace Compiler

/-- The compiler for callers that ask for no alias of their own. -/
def standard : Compiler := ⟨"me"⟩

/-- The scope in which every statement begins. -/
def scope (compiler : Compiler) : Scope := .start compiler.defaultAlias

/-- The text of a projection on its own. -/
def fields (compiler : Compiler) (spec : Value) : Except Error String :=
  (Projection.compile compiler.scope spec).1

/-- The text of a table reference on its own. -/
def table (compiler : Compiler) (spec : Value) : Except Error String :=
  TableRef.compile compiler.scope spec

/-- What a statement selects, with the scope after it: everything, unless fields are given. -/
def selected (compiler : Compiler) : Option Value → Except Error String × Scope
  | some spec =>
    if spec.isEmpty then (.ok "*", compiler.scope) else Projection.compile compiler.scope spec
  | none => (.ok "*", compiler.scope)

/-- A selection up to its tail, with the scope of the tail: the aliases that the fields declare
are in force there. The table is read before the fields. -/
def selectHead (compiler : Compiler) (table : Value) (fields : Option Value) :
    Except Error (Statement × Scope) := do
  let source ← compiler.table table
  let columns ← (compiler.selected fields).1
  return (.ofText ("SELECT " ++ columns ++ " FROM " ++ source), (compiler.selected fields).2)

/-- An update up to its tail. -/
def updateHead (table : String) (row : Value) : Except Error Statement := do
  let table ← Name.require .table table
  let assignments ← Assignment.readAll row
  return ⟨"UPDATE " ++ Name.quote table ++ " SET " ++ ",".intercalate (assignments.map (·.text)),
    assignments.map (·.value)⟩

/-- A deletion up to its tail: on its own, it deletes every row. -/
def deleteHead (table : String) : Except Error Statement := do
  return .ofText ("DELETE FROM " ++ Name.quote (← Name.require .table table))

/-- The insertion, with an operation on every column that one is given for. -/
def upsertWith (table : String) (row operations : Value) : Except Error Statement := do
  let insertion ← Insertion.ofRow .insert table row
  let updates ← Insertion.readOperations operations
  return { insertion with updates := some updates }.statement

/-- The statement that a request asks for, or the first fault of the request. Updates and
deletions give their table no alias, so the columns of their conditions are not prefixed. -/
def compile (compiler : Compiler) : Request → Except Error Statement
  | .insert table row => (Insertion.ofRow .insert table row).map (·.statement)
  | .replace table row => (Insertion.ofRow .replace table row).map (·.statement)
  | .bulkInsert table rows => (Insertion.ofRows table rows).map (·.statement)
  | .upsert table row => (Insertion.ofRow .insert table row).map (·.overwriting.statement)
  | .upsertWith table row operations => upsertWith table row operations
  | .update table row restriction => do
    let head ← updateHead table row
    return head ++ (← restriction.compile compiler.scope false)
  | .select table fields restriction => do
    let (head, scope) ← compiler.selectHead table fields
    return head ++ (← restriction.compile scope true)
  | .delete table restriction => do
    let head ← deleteHead table
    return head ++ (← restriction.compile compiler.scope false)
  | .restrict restriction prefixed => restriction.compile compiler.scope prefixed

end Compiler

end ParamSql
