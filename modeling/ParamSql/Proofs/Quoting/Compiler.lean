import ParamSql.Proofs.Compiled
import ParamSql.Proofs.Quoting.Filter
import ParamSql.Proofs.Supplied.Compiler
import ParamSql.Proofs.Supplied.Request

/-!
# The names in a statement

As long as nothing that was supplied has a backtick, every fragment of a statement is well quoted:
what stands in backticks is the default alias or was given as a name, and is never empty.
-/
namespace ParamSql

open Text

variable {known : List String}

namespace Restriction

theorem quoting_compileFilter {scope : Scope} {prefixed : Bool} {filter : Option Value}
    {statement : Statement} (base : Quoting known (Name.quote scope.defaultAlias))
    (spelled : ∀ name ∈ (filter.map Filter.columns).getD [], name ≠ "" →
      Spelled (Quoting known) name)
    (plain : ∀ text ∈ (filter.map Filter.texts).getD [], Undelimited text)
    (success : compileFilter scope prefixed filter = .ok statement) :
    Quoting known statement.text := by
  cases filter with
  | none =>
    cases success
    exact compositional_quoting.empty
  | some spec =>
    obtain ⟨compiled, accepted, same⟩ := Outcome.bind_eq_ok.mp success
    cases same
    have keyword : Quoting known " WHERE " := .plain (by decide)
    unfold whereClause
    split
    · exact compositional_quoting.empty
    · exact keyword.append (SearchCondition.quoting_compile base spelled plain accepted)

/-- The names in the tail of a statement are the columns of its filter and of its modifiers, and the
default alias. -/
theorem quoting_compile {scope : Scope} {prefixed : Bool} {given : Restriction}
    {statement : Statement} (base : Quoting known (Name.quote scope.defaultAlias))
    (spelled : ∀ name ∈ given.columns, name ≠ "" → Spelled (Quoting known) name)
    (plain : ∀ text ∈ given.texts, Undelimited text)
    (success : given.compile scope prefixed = .ok statement) : Quoting known statement.text := by
  obtain ⟨inFilter, inModifiers⟩ := List.forall_mem_append.mp spelled
  obtain ⟨ofFilter, -⟩ := List.forall_mem_append.mp plain
  obtain ⟨condition, filtered, ended⟩ := Outcome.bind_eq_ok.mp success
  obtain ⟨clauses, written, same⟩ := Outcome.bind_eq_ok.mp ended
  cases same
  have front := quoting_compileFilter base inFilter ofFilter filtered
  exact front.append (Modifiers.holds_compile compositional_quoting base inModifiers written)

end Restriction

namespace Compiler

variable {compiler : Compiler} {name : String} {row : Value} {statement : Statement}

theorem quoting_updateHead
    (spelled : ∀ text ∈ name :: row.rowKeys, text ≠ "" → Spelled (Quoting known) text)
    (success : updateHead name row = .ok statement) : Quoting known statement.text := by
  obtain ⟨table, checked, rest⟩ := Outcome.bind_eq_ok.mp success
  obtain ⟨assignments, read, same⟩ := Outcome.bind_eq_ok.mp rest
  obtain ⟨present, rfl⟩ := Name.require_eq_ok_iff.mp checked
  cases same
  obtain ⟨named, keyed⟩ := List.forall_mem_cons.mp spelled
  obtain ⟨keys, -, columns⟩ := Assignment.entries_of_readAll read
  have update : Quoting known "UPDATE " := .plain (by decide)
  have set : Quoting known " SET " := .plain (by decide)
  have comma : Quoting known "," := .plain (by decide)
  have each : ∀ text ∈ assignments.map (·.text), Quoting known text := by
    refine List.forall_mem_map.mpr fun assignment member => ?_
    have column : assignment.column ∈ row.rowKeys := keys ▸ List.mem_map_of_mem member
    have bound : Quoting known " = ?" := .plain (by decide)
    exact (keyed _ column (columns _ column)).quoted.append bound
  exact ((update.append (named present).quoted).append set).append
    (compositional_quoting.intercalate comma each)

theorem quoting_deleteHead (spelled : name ≠ "" → Spelled (Quoting known) name)
    (success : deleteHead name = .ok statement) : Quoting known statement.text := by
  obtain ⟨_, checked, same⟩ := Outcome.bind_eq_ok.mp success
  obtain ⟨present, rfl⟩ := Name.require_eq_ok_iff.mp checked
  cases same
  have delete : Quoting known "DELETE FROM " := .plain (by decide)
  exact delete.append (spelled present).quoted

/-- The names in an insertion are those of its table and of its columns, under any clause for rows
that are there already. -/
theorem quoting_insertion {insertion : Insertion} {given : List Value}
    {updates : Option (List ColumnUpdate)} (read : insertion.ReadFrom name given)
    (spelled : ∀ text ∈ name :: given.flatMap (·.rowKeys), text ≠ "" →
      Spelled (Quoting known) text)
    (updated : ∀ update ∈ updates.getD [], Spelled (Quoting known) update.column ∧
      ∀ text ∈ update.names, Undelimited text) :
    Quoting known (Insertion.statement { insertion with updates := updates }).text := by
  have supplied : insertion.table :: insertion.columns ⊆ name :: given.flatMap (·.rowKeys) := by
    rw [read.table_eq]
    exact List.cons_subset_cons name read.columns_subset
  obtain ⟨table, columns⟩ := List.forall_mem_cons.mp fun column member =>
    spelled column (supplied member) (read.present column member)
  have opening := Insertion.holds_opening compositional_quoting table columns
  have tuples : Quoting known (",".intercalate (insertion.rows.map fun _ =>
      Placeholder.tuple insertion.columns.length)) := by
    refine .plain (avoids_intercalate (by decide) (List.forall_mem_map.mpr fun row member => ?_))
    exact Placeholder.undelimited_tuple _
  have clause := Insertion.holds_updateClause compositional_quoting
    (fun update member => (updated update member).1)
    (fun update member text shown => .plain ((updated update member).2 text shown))
  exact (opening.append tuples).append clause

theorem quoting_row {insertion : Insertion} {updates : Option (List ColumnUpdate)}
    (read : insertion.ReadFrom name [row])
    (spelled : ∀ text ∈ name :: row.rowKeys, text ≠ "" → Spelled (Quoting known) text)
    (updated : ∀ update ∈ updates.getD [], Spelled (Quoting known) update.column ∧
      ∀ text ∈ update.names, Undelimited text) :
    Quoting known (Insertion.statement { insertion with updates := updates }).text :=
  quoting_insertion read (by simpa using spelled) updated

/-- Every fragment of a statement quotes known names only, and so does the statement. -/
theorem quoting_compile {request : Request}
    (base : Quoting known (Name.quote compiler.defaultAlias))
    (spelled : ∀ name ∈ request.identifiers, name ≠ "" → Spelled (Quoting known) name)
    (plain : ∀ text ∈ request.texts, Undelimited text)
    (success : compiler.compile request = .ok statement) : Quoting known statement.text := by
  cases compiled_of_compile success with
  | insert read | replace read => exact quoting_row read spelled (by simp [read.updates_eq])
  | bulkInsert read => exact quoting_insertion read spelled (by simp [read.updates_eq])
  | @upsert name row insertion read =>
    refine quoting_row read spelled (List.forall_mem_map.mpr fun column member => ?_)
    have keyed : column ∈ name :: row.rowKeys :=
      List.mem_cons_of_mem name (by simpa using read.columns_subset member)
    have present := read.present column (List.mem_cons_of_mem _ member)
    exact ⟨spelled column keyed present, List.forall_mem_singleton.mpr (plain column keyed)⟩
  | upsertWith read operated =>
    rw [Request.identifiers, ← List.cons_append, List.forall_mem_append] at spelled
    rw [Request.texts, ← List.cons_append, List.forall_mem_append] at plain
    refine quoting_row read spelled.1 fun update member => ?_
    obtain ⟨keyed, present, shown⟩ := Insertion.updates_of_readOperations operated update member
    exact ⟨spelled.2 _ keyed present, fun text named => plain.2 text (shown named)⟩
  | update headed ended =>
    rw [Request.identifiers, ← List.cons_append, List.forall_mem_append] at spelled
    rw [Request.texts, ← List.cons_append, List.forall_mem_append] at plain
    exact (quoting_updateHead spelled.1 headed).append
      (Restriction.quoting_compile base spelled.2 plain.2 ended)
  | select headed ended =>
    obtain ⟨others, columns⟩ := List.forall_mem_append.mp spelled
    obtain ⟨tables, selected⟩ := List.forall_mem_append.mp others
    obtain ⟨sourced, restricted⟩ := List.forall_mem_append.mp plain
    obtain ⟨text, rfl, front, kept⟩ := holds_selectHead compositional_quoting base tables
      (fun text member => .plain (sourced text (List.mem_append_left _ member))) selected headed
    exact front.append (Restriction.quoting_compile (kept ▸ base) columns restricted ended)
  | delete headed ended =>
    obtain ⟨table, columns⟩ := List.forall_mem_cons.mp spelled
    obtain ⟨-, restricted⟩ := List.forall_mem_cons.mp plain
    exact (quoting_deleteHead table headed).append
      (Restriction.quoting_compile base columns restricted ended)
  | restrict ended => exact Restriction.quoting_compile base spelled plain ended

/-- Statements, projections and table references are well quoted, when no text that was supplied has
a backtick and the default alias is not empty: their backticks come in pairs, and what a pair
encloses is the default alias or was given as a name, and is not empty. -/
theorem compile_wellQuoted (present : compiler.defaultAlias ≠ "")
    (undelimited : Undelimited compiler.defaultAlias) :
    (∀ request statement, (∀ text ∈ request.texts, Undelimited text) →
      compiler.compile request = .ok statement →
      WellQuoted (compiler.defaultAlias :: request.identifiers) statement.text) ∧
    (∀ spec result, (∀ text ∈ spec.texts, Undelimited text) → compiler.fields spec = .ok result →
      WellQuoted (compiler.defaultAlias :: spec.fieldIdentifiers) result) ∧
    ∀ spec result, (∀ text ∈ spec.texts, Undelimited text) → compiler.table spec = .ok result →
      WellQuoted (compiler.defaultAlias :: spec.tableIdentifiers) result := by
  have base (names : List String) : Quoting (compiler.defaultAlias :: names)
      (Name.quote compiler.defaultAlias) := .quote List.mem_cons_self present undelimited
  have spelled {names texts : List String} (within : names ⊆ texts)
      (plain : ∀ text ∈ texts, Undelimited text) :
      ∀ name ∈ names, name ≠ "" → Spelled (Quoting (compiler.defaultAlias :: names)) name :=
    fun name member present =>
      spelled_quoting (List.mem_cons_of_mem _ member) present (plain name (within member))
  refine ⟨fun request statement plain success => ?_, fun spec result plain success => ?_,
    fun spec result plain success => ?_⟩
  · have names := spelled request.identifiers_subset_texts plain
    exact (quoting_compile (base _) names plain success).wellQuoted
  · have names := spelled spec.fieldIdentifiers_subset_texts plain
    exact (Projection.holds_compile compositional_quoting (base _) names success).wellQuoted
  · have names := spelled spec.tableIdentifiers_subset_texts plain
    exact (TableRef.holds_compile compositional_quoting (base _) names
      (fun text member => .plain (plain text member)) success).wellQuoted

/-- An aliased call, a join whose condition has a qualified and a bare side, and a filter. -/
def joinedSample : Request :=
  .select (.map ⟨[("t", .map ⟨[("-left", .list [.string "u", .string "v"]),
      ("-on", .list [.string "id", .string "v.id"])]⟩)]⟩)
    (some (.list [.string "COUNT(*)", .map ⟨[("max", .string "a"), ("-as", .string "b")]⟩]))
    ⟨some (.map ⟨[("c", .integer 1)]⟩), ⟨none, some (.string "b"), none, none⟩⟩

theorem compile_wellQuoted_joined :
    ∃ statement, standard.compile joinedSample = .ok statement ∧
      statement.text = "SELECT COUNT(*),MAX( `me`.`a` ) AS `b` FROM `t` `me`" ++
        " LEFT JOIN `u` `v` ON `me`.`id` = v.id WHERE ( `me`.`c` = ? ) ORDER BY `b`" ∧
      Text.WellQuoted ["me", "t", "u", "v", "id", "COUNT(*)", "max", "a", "b", "c", "b"]
        statement.text := by
  have success : standard.compile joinedSample = .ok
      ⟨"SELECT COUNT(*),MAX( `me`.`a` ) AS `b` FROM `t` `me`" ++
        " LEFT JOIN `u` `v` ON `me`.`id` = v.id WHERE ( `me`.`c` = ? ) ORDER BY `b`",
        [.integer 1]⟩ := rfl
  have texts : joinedSample.texts = ["t", "-left", "u", "v", "-on", "id", "v.id", "COUNT(*)",
    "max", "a", "-as", "b", "c", "b"] := rfl
  have quoted := (@compile_wellQuoted standard (by decide) (by decide)).1
    joinedSample _ (by rw [texts]; decide) success
  exact ⟨_, success, rfl, quoted⟩

end Compiler

end ParamSql
