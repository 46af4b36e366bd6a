import ParamSql.Compiler
import ParamSql.Proofs.Outcome

/-!
# Statements that take a restriction

Updates, selections and deletions have one form: a head that does not depend on the restriction,
and the tail that the restriction compiles to in the scope behind the head.
-/
namespace ParamSql

/-- A request without its restriction. -/
inductive Restrictable where
  | update (table : String) (row : Value)
  | select (table : Value) (fields : Option Value)
  | delete (table : String)

namespace Restrictable

def request (given : Restrictable) (restriction : Restriction) : Request :=
  match given with
  | .update table row => .update table row restriction
  | .select table fields => .select table fields restriction
  | .delete table => .delete table restriction

/-- The columns of the filter are prefixed. -/
def prefixed : Restrictable → Bool
  | .select _ _ => true
  | _ => false

/-- The statement up to its tail, with the scope of the tail. -/
def head (compiler : Compiler) : Restrictable → Except Error (Statement × Scope)
  | .update table row => do return (← Compiler.updateHead table row, compiler.scope)
  | .select table fields => compiler.selectHead table fields
  | .delete table => do return (← Compiler.deleteHead table, compiler.scope)

theorem compile_request (compiler : Compiler) (given : Restrictable) (restriction : Restriction) :
    compiler.compile (given.request restriction) = do
      let (head, scope) ← given.head compiler
      return head ++ (← restriction.compile scope given.prefixed) := by
  cases given with
  | update table row => simp only [request, Compiler.compile, head, bind_assoc, pure_bind, prefixed]
  | select table fields => rfl
  | delete table => simp only [request, Compiler.compile, head, bind_assoc, pure_bind, prefixed]

end Restrictable

end ParamSql
