import ParamSql.Proofs.Projection.Aliases
import ParamSql.Proofs.Restriction.Columns
import ParamSql.Proofs.Restriction.Restrictable

/-!
# Statements and tails on their own

A statement with a restriction is the statement without one, followed by the tail that can also be
asked for on its own. A selection writes its tail in the scope behind its fields, so that there the
aliases of the fields have to differ from the columns of the tail.
-/
namespace ParamSql

/-- The request for the tail alone. Without a filter it has an empty one. -/
def Restriction.alone (given : Restriction) (prefixed : Bool) : Request :=
  .restrict ⟨some (given.filter.getD (.list [])), given.modifiers⟩ prefixed

theorem Restriction.compile_alone (compiler : Compiler) (given : Restriction) (prefixed : Bool) :
    compiler.compile (given.alone prefixed) = given.compile compiler.scope prefixed := by
  obtain ⟨filter, modifiers⟩ := given
  cases filter with
  | none => rfl
  | some spec => rfl

namespace Restrictable

/-- The names of the aliases that a selection declares. -/
def aliasNames : Restrictable → List String
  | .select _ fields => (fields.map Projection.aliasNames).getD []
  | _ => []

/-- The scope of the tail is that of the compiler with some of the aliases of the statement. -/
theorem scope_of_head {compiler : Compiler} {given : Restrictable} {head : Statement}
    {scope : Scope} (success : given.head compiler = .ok (head, scope)) :
    ∃ declared, scope = compiler.scope.declareAll declared ∧
      declared ⊆ Projection.quotedNames given.aliasNames := by
  cases given with
  | update table row =>
    obtain ⟨_, -, same⟩ := Outcome.bind_eq_ok.mp success
    cases same
    exact ⟨[], rfl, List.nil_subset _⟩
  | delete table =>
    obtain ⟨_, -, same⟩ := Outcome.bind_eq_ok.mp success
    cases same
    exact ⟨[], rfl, List.nil_subset _⟩
  | select table fields =>
    obtain ⟨_, -, rest⟩ := Outcome.bind_eq_ok.mp success
    obtain ⟨_, -, same⟩ := Outcome.bind_eq_ok.mp rest
    cases same
    cases fields with
    | none => exact ⟨[], rfl, List.nil_subset _⟩
    | some spec =>
      rw [Compiler.selected]
      split
      · exact ⟨[], rfl, List.nil_subset _⟩
      · obtain ⟨declared, same, within, -⟩ := Projection.declared_compile compiler.scope spec
        exact ⟨declared, same, within.subset⟩

/-- The scope behind the head of a statement writes a column as that of the compiler does, when the
column is none of the aliases of the statement. -/
theorem column_of_head {compiler : Compiler} {given : Restrictable} {head : Statement}
    {scope : Scope} (success : given.head compiler = .ok (head, scope)) {name : String}
    (apart : name ∉ given.aliasNames) (prefixed : Bool) :
    scope.column name prefixed = compiler.scope.column name prefixed := by
  obtain ⟨declared, rfl, within⟩ := scope_of_head success
  refine Scope.column_declareAll (fun member => ?_) prefixed
  obtain ⟨other, listed, same⟩ := List.mem_map.mp (within member)
  exact apart (Name.quote_injective same ▸ listed)

/-- A statement is its head and then the tail on its own, or the first fault of the two. -/
theorem compile_eq_head_append_alone (compiler : Compiler) (given : Restrictable)
    (restriction : Restriction) (apart : ∀ name ∈ given.aliasNames, name ∉ restriction.columns) :
    compiler.compile (given.request restriction) = do
      let head ← compiler.compile (given.request .none)
      let tail ← compiler.compile (restriction.alone given.prefixed)
      return head ++ tail := by
  rw [compile_request, compile_request, Restriction.compile_alone]
  cases success : given.head compiler with
  | error fault => rfl
  | ok result =>
    obtain ⟨head, scope⟩ := result
    have same := Restriction.compile_congr (fun name member =>
      column_of_head success fun named => apart name named member) given.prefixed
    simp [same, Restriction.compile_none, Statement.append_empty]

end Restrictable

/-- Updates and deletions are the statement without a restriction with the tail behind it, or the
fault of the first of the two that has one; so are selections, as long as no alias that their fields
name is a column of the filter or of the modifiers. -/
theorem Compiler.compile_eq_append_alone (compiler : Compiler) :
    (∀ table row (given : Restriction), compiler.compile (.update table row given) = do
      let head ← compiler.compile (.update table row .none)
      let tail ← compiler.compile (given.alone false)
      return head ++ tail) ∧
    (∀ table (given : Restriction), compiler.compile (.delete table given) = do
      let head ← compiler.compile (.delete table .none)
      let tail ← compiler.compile (given.alone false)
      return head ++ tail) ∧
    ∀ table fields (given : Restriction),
      (∀ name ∈ (fields.map Projection.aliasNames).getD [], name ∉ given.columns) →
      compiler.compile (.select table fields given) = do
        let head ← compiler.compile (.select table fields .none)
        let tail ← compiler.compile (given.alone true)
        return head ++ tail := by
  refine ⟨?_, ?_, ?_⟩
  · intro table row given
    exact Restrictable.compile_eq_head_append_alone compiler (.update table row) given nofun
  · intro table given
    exact Restrictable.compile_eq_head_append_alone compiler (.delete table) given nofun
  · intro table fields given apart
    exact Restrictable.compile_eq_head_append_alone compiler (.select table fields) given apart

/-- A sum under an alias. -/
def totalSample : Value := .map ⟨[("sum", .string "amount"), ("-as", .string "total")]⟩

theorem Compiler.compile_eq_append_alone_total :
    let given : Restriction := ⟨some (.map ⟨[("id", .map ⟨[(">", .integer 1)]⟩)]⟩),
      ⟨none, some (.map ⟨[("-desc", .list [.string "amount"])]⟩), none, none⟩⟩
    standard.compile (given.alone true) =
        .ok ⟨" WHERE ( `me`.`id` > ? ) ORDER BY `me`.`amount` DESC", [.integer 1]⟩ ∧
      standard.compile (.select (.string "orders") (some totalSample) given) =
        .ok ⟨"SELECT SUM( `me`.`amount` ) AS `total` FROM `orders` `me`" ++
          " WHERE ( `me`.`id` > ? ) ORDER BY `me`.`amount` DESC", [.integer 1]⟩ := by
  intro given
  have aliases : Projection.aliasNames totalSample = ["total"] := rfl
  have columns : given.columns = ["id", "amount"] := rfl
  refine ⟨rfl, ?_⟩
  rw [(compile_eq_append_alone standard).2.2 _ _ given (by simp [aliases, columns])]
  rfl

/-- A column that is an alias of the fields is prefixed in the tail alone only. -/
example :
    let given : Restriction := ⟨none, ⟨none, some (.string "total"), none, none⟩⟩
    Compiler.standard.compile (given.alone true) = .ok ⟨" ORDER BY `me`.`total`", []⟩ ∧
      Compiler.standard.compile (.select (.string "orders") (some totalSample) given) =
        .ok ⟨"SELECT SUM( `me`.`amount` ) AS `total` FROM `orders` `me` ORDER BY `total`", []⟩ :=
  ⟨rfl, rfl⟩

end ParamSql
