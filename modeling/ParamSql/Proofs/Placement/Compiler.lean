import ParamSql.Proofs.Placement.Reading
import ParamSql.Proofs.Placement.TableRef
import ParamSql.Proofs.Projection.Declared
import ParamSql.Proofs.Supplied.Modifiers
import ParamSql.SearchCondition.Render

/-!
# Dashes in accepted descriptions

In every language but one, a key that begins with a dash is a directive in its place, or the
description is refused; no such key comes into a text as a name. The exception is the name of a
table with joins, which can be any key.
-/
namespace ParamSql.Scope

/-- Where a description is accepted, its directives are in place, at every depth: `-and` and `-or`
among the entries of a filter, `-in` and `-between` alone under a column, `-as` among the parts of
an item, `-asc` and `-desc` alone in an ordering, `-inner`, `-left` and `-on` in a join. No other
key begins with a dash, so that none is written as a column, an operator or a function, except in
one place: a table with joins has its name from a key, and this key can be anything but empty. -/
theorem compile_inPlace (scope : Scope) :
    (∀ role spec, (Value.mapsAs role spec).map PlacedMap.fields = spec.maps) ∧
    (∀ prefixed ambient spec statement,
      SearchCondition.compile scope prefixed ambient spec = .ok statement →
      (∀ placed ∈ spec.mapsAs .filter, placed.InPlace) ∧
        ∃ condition : SearchCondition,
          statement = condition.statement (scope.column · prefixed) ambient ∧
          SearchCondition.KeysAreNames condition.leaves) ∧
    (∀ (clause : ColumnClause) spec text, clause.compile scope spec = .ok text →
      (∀ placed ∈ spec.mapsAs .ordering, placed.InPlace) ∧
        ∃ columns, clause.text scope columns = .ok text ∧
          ∀ column ∈ columns, column.name ∈ spec.strings) ∧
    (∀ spec text, (Projection.compile scope spec).1 = .ok text →
      (∀ placed ∈ spec.mapsAs .projection, placed.InPlace) ∧
        ∃ projection : Projection, text = projection.text scope ∧
          ∀ function ∈ projection.functions, Directive.isKey function = false) ∧
    (∀ spec text, TableRef.compile scope spec = .ok text →
      ∃ reference : TableRef, text = reference.text scope ∧
        InPlaceBesideTables (spec.mapsAs .table) reference.heads) ∧
    ∀ spec text, TableRef.compileJoins scope spec = .ok text →
      ∃ joins, text = TableRef.joinsText scope joins ∧
        InPlaceBesideTables (spec.mapsAs .join) (TableRef.headsOfJoins joins) := by
  refine ⟨Value.fields_mapsAs, ?_, ?_, ?_, ?_, ?_⟩
  · intro prefixed ambient spec statement success
    obtain ⟨condition, read, same⟩ := Outcome.bind_eq_ok.mp success
    cases same
    obtain ⟨inPlace, names⟩ := SearchCondition.inPlace_of_read read
    exact ⟨inPlace, condition, rfl, names⟩
  · intro clause spec text success
    obtain ⟨columns, read, written⟩ := Outcome.bind_eq_ok.mp success
    refine ⟨ColumnClause.inPlace_of_read read, columns, written, ?_⟩
    exact fun column listed => (ColumnClause.name_of_read read column listed).1
  · intro spec text success
    obtain ⟨projection, returned, same⟩ := Projection.read_of_compile success
    obtain ⟨inPlace, names⟩ := Projection.inPlace_of_read returned
    exact ⟨inPlace, projection, same, names⟩
  · intro spec text success
    obtain ⟨reference, read, same⟩ := Outcome.bind_eq_ok.mp success
    cases same
    obtain ⟨accepted, keyed⟩ := TableRef.accepted_of_read read
    exact ⟨reference, rfl, inPlaceBesideTables_of_accepted accepted keyed⟩
  · intro spec text success
    obtain ⟨joins, read, same⟩ := Outcome.bind_eq_ok.mp success
    cases same
    obtain ⟨accepted, keyed⟩ := TableRef.accepted_of_readJoins read
    exact ⟨joins, rfl, inPlaceBesideTables_of_accepted accepted keyed⟩

/-- A filter with groups, directives in capitals, an operator, and a bare name. -/
def nestedFilter : Value :=
  .map ⟨[("-OR", .list [.map ⟨[("a", .map ⟨[("-In", .list [.integer 1])]⟩)]⟩,
    .map ⟨[("-and", .list [.map ⟨[("b", .map ⟨[(">", .integer 2)]⟩)]⟩, .string "-c"])]⟩])]⟩

/-- A table with a join, under a key that begins with a dash. -/
def dashedTable : Value :=
  .map ⟨[("-nope", .map ⟨[("-INNER", .list [.string "item", .string "i"]),
    ("-on", .list [.string "id", .string "i.user_id"])]⟩)]⟩

theorem compile_inPlace_samples :
    SearchCondition.compile (start "me") true .and nestedFilter = .ok
        ⟨"( ( ( `me`.`a` IN ( ? ) ) OR ( ( ( `me`.`b` > ? ) AND `me`.`-c` = ? ) ) ) )",
          [.integer 1, .integer 2]⟩ ∧
      (∀ placed ∈ nestedFilter.mapsAs .filter, placed.InPlace) ∧
      (nestedFilter.mapsAs .filter).length = 6 ∧
      TableRef.compile (start "me") dashedTable = .ok
        "`-nope` `me` INNER JOIN `item` `i` ON `me`.`id` = i.user_id" ∧
      (∀ placed ∈ dashedTable.mapsAs .table, placed.role ≠ .table → placed.InPlace) ∧
      ¬ ∀ placed ∈ dashedTable.mapsAs .table, placed.InPlace := by
  have filtered : SearchCondition.compile (start "me") true .and nestedFilter = .ok
      ⟨"( ( ( `me`.`a` IN ( ? ) ) OR ( ( ( `me`.`b` > ? ) AND `me`.`-c` = ? ) ) ) )",
        [.integer 1, .integer 2]⟩ := by rfl
  have joined : TableRef.compile (start "me") dashedTable = .ok
      "`-nope` `me` INNER JOIN `item` `i` ON `me`.`id` = i.user_id" := by rfl
  obtain ⟨-, filters, -, -, tables, -⟩ := compile_inPlace (start "me")
  obtain ⟨reference, -, beside⟩ := tables _ _ joined
  refine ⟨filtered, (filters _ _ _ _ filtered).1, by decide, joined, beside.others, ?_⟩
  rw [beside.inPlace_iff]
  decide

/-- The key of a table is a name even where it begins with a dash and is no directive. -/
theorem dashedTable_compiled :
    TableRef.compile (start "me") dashedTable = .ok
        "`-nope` `me` INNER JOIN `item` `i` ON `me`.`id` = i.user_id" ∧
      ∃ placed ∈ dashedTable.mapsAs .table, ∃ key ∈ placed.fields.keys,
        Directive.isKey key = true ∧ ∀ directive : Directive, ¬ directive.SpelledBy key := by
  refine ⟨by rfl, _, List.mem_cons_self, "-nope", List.mem_cons_self, by decide, ?_⟩
  intro directive
  unfold Directive.SpelledBy
  cases directive <;> decide

end ParamSql.Scope
