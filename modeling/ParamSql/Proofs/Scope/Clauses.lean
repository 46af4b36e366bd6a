import ParamSql.Compiler
import ParamSql.Proofs.Projection.Naming
import ParamSql.Proofs.Restriction.Filtered
import ParamSql.Proofs.Scope.Columns

/-!
# One column in all clauses

Conditions, joins, groupings and orderings write a column in one way. What a statement selects is
written by a rule of its own, which knows a name with a point as an expression, but not one that is
quoted already. The two rules agree on every name but the quoted ones without a point, and these are
quoted a second time where they are selected.
-/
namespace ParamSql

open Text (Avoids)

/-- A name that can stand for a column: neither a call nor a wildcard. -/
structure Name.IsColumn (name : String) : Prop where
  present : name ≠ ""
  uncalled : Avoids '(' name ∧ Avoids ')' name
  single : Avoids '*' name

/-- The name is not quoted, or names its table. -/
def Name.IsBareOrPointed (name : String) : Prop :=
  Avoids delimiter name ∨ ¬ Avoids '.' name

instance (name : String) : Decidable (Name.IsBareOrPointed name) :=
  inferInstanceAs (Decidable (_ ∨ _))

namespace Name

/-- Without calls and wildcards, an expression is a name with a point. -/
theorem IsColumn.isExpression_iff {name : String} (column : IsColumn name) :
    isExpression name = true ↔ '.' ∈ name.toList := by
  have opening : '(' ∉ name.toList := column.uncalled.1
  have closing : ')' ∉ name.toList := column.uncalled.2
  have star : '*' ∉ name.toList := column.single
  simp [isExpression, and_or_left, exists_or, opening, closing, star]

end Name

/-- What is quoted and prefixed is longer than the name. -/
theorem Scope.length_lt_length_qualify (scope : Scope) (name : String) :
    name.length < (scope.qualify (Name.quote name)).length := by
  have quoted : (Name.quote name).length = name.length + 2 := by
    have delimiter : "`".length = 1 := rfl
    rw [Name.quote, String.length_append, String.length_append, delimiter]
    omega
  unfold Scope.qualify
  split
  · omega
  · simp only [String.length_append]
    omega

namespace Projection

/-- A name that is quoted and has no point is quoted once more where it is selected, and nowhere
else. -/
theorem columnText_of_quoted {name : String} (column : Name.IsColumn name)
    (quoted : ¬ Name.IsBareOrPointed name) (scope : Scope) :
    columnText scope name = scope.qualify (Name.quote name) ∧ scope.column name true = name := by
  obtain ⟨delimited, pointed⟩ := not_or.mp quoted
  have unpointed : '.' ∉ name.toList := not_not.mp pointed
  have raw : ¬ Name.isExpression name = true :=
    mt column.isExpression_iff.mp unpointed
  exact ⟨if_neg raw,
    Scope.column_of_isQualified (Name.isQualified_iff.mpr (.inl (not_not.mp delimited))) scope true⟩

/-- A name is selected as it is written elsewhere, unless it is quoted and has no point. -/
theorem columnText_eq_column_iff {name : String} (column : Name.IsColumn name) (scope : Scope) :
    columnText scope name = scope.column name true ↔ Name.IsBareOrPointed name := by
  by_cases point : '.' ∈ name.toList
  · have written : columnText scope name = name :=
      columnText_of_isExpression (column.isExpression_iff.mpr point)
    have qualified : Name.isQualified name = true := Name.isQualified_iff.mpr (.inr point)
    rw [written, Scope.column_of_isQualified qualified]
    exact iff_of_true rfl (.inr (not_not.mpr point))
  by_cases quoted : Name.delimiter ∈ name.toList
  · have twice : ¬ Name.IsBareOrPointed name := not_or.mpr ⟨not_not.mpr quoted, not_not.mpr point⟩
    obtain ⟨selected, elsewhere⟩ := columnText_of_quoted column twice scope
    refine iff_of_false (fun same => ?_) twice
    have longer := scope.length_lt_length_qualify name
    rw [← selected, same, elsewhere] at longer
    exact Nat.lt_irrefl _ longer
  · have raw : ¬ Name.isExpression name = true := mt column.isExpression_iff.mp point
    have bare : ¬ Name.isQualified name = true :=
      mt Name.isQualified_iff.mp (not_or.mpr ⟨quoted, point⟩)
    rw [columnText, if_neg raw, Scope.column, if_neg bare, if_pos rfl]
    exact iff_of_true rfl (.inl quoted)

theorem renderItems_columns (scope : Scope) (names : List String) :
    renderItems scope (names.map .column) = (names.map (columnText scope), scope) := by
  induction names with
  | nil => rfl
  | cons name rest ih => simp [renderItems, render, ih]

theorem yields_names {names : List String} (present : ∀ name ∈ names, name ≠ "") :
    (readItems (names.map Value.string)).Yields (names.map .column) := by
  induction names with
  | nil => exact keptByReading_yields.noItem
  | cons name rest ih =>
    obtain ⟨here, there⟩ := List.forall_mem_cons.mp present
    exact keptByReading_yields.item (keptByReading_yields.column here) (ih there)

theorem aliasNamesOfItems_names (names : List String) :
    aliasNamesOfItems (names.map Value.string) = [] := by
  induction names with
  | nil => rfl
  | cons name rest ih => exact ih

/-- A list of names is selected name by name, and declares nothing. -/
theorem compile_names {names : List String} (present : ∀ name ∈ names, name ≠ "") (scope : Scope) :
    compile scope (.list (names.map Value.string)) =
      (.ok (",".intercalate (names.map (columnText scope))), scope) := by
  obtain ⟨declared, after, within, -⟩ :=
    declared_compile scope (.list (names.map Value.string))
  rw [aliasNames, aliasNamesOfItems_names] at within
  obtain rfl := List.prefix_nil.mp within
  obtain ⟨collected, ran⟩ := keptByReading_yields.list (yields_names present) []
  have written : text scope (.list (names.map .column)) =
      ",".intercalate (names.map (columnText scope)) := by
    rw [text, render, renderItems_columns]
  refine Prod.ext ?_ after
  rw [compile, ran, ← written]
  rfl

theorem compile_name {name : String} (present : name ≠ "") (scope : Scope) :
    compile scope (.string name) = (.ok (columnText scope name), scope) := by
  have required : Name.require .field name = .ok name := Name.require_of_ne present
  unfold compile Value.string read
  rw [required]
  rfl

end Projection

/-- A name in the list of a condition is compared with a value that is bound elsewhere. -/
theorem SearchCondition.compile_name {name : String} (present : name ≠ "") (scope : Scope)
    (prefixed : Bool) (ambient : Connective) :
    compile scope prefixed ambient (.list [.string name]) =
      .ok ⟨"( " ++ (scope.column name prefixed ++ " = ?") ++ " )", []⟩ := by
  have single : read (.list [.string name]) = .ok (.group none [.unbound name]) := by
    simp [read, readItems, readItem, Value.string, Value.requireString, Name.require_of_ne present]
  rw [compile, single]
  simp [statement, clause, clauses, enclose, operands, operandsOfParts]

/-- The key of a condition is a column, whatever it is compared with. -/
theorem SearchCondition.compile_entry {name : String} (present : name ≠ "")
    (plain : Directive.isKey name = false) {value : Value} {comparison : Comparison}
    (compared : Comparison.read name value = .ok comparison) (scope : Scope) (prefixed : Bool)
    (ambient : Connective) :
    compile scope prefixed ambient (.map ⟨[(name, value)]⟩) =
      .ok ⟨"( " ++ (scope.column name prefixed ++ " " ++ comparison.operator.text ++ " " ++
        comparison.placeholder) ++ " )", comparison.operands⟩ := by
  have single : read (.map ⟨[(name, value)]⟩) = .ok (.group none [.compared name comparison]) := by
    simp [read, readEntries, Directive.read_eq_none_iff.mpr plain, Name.require_of_ne present,
      compared]
  rw [compile, single]
  simp [statement, clause, clauses, enclose, operands, operandsOfParts]

theorem ColumnClause.compile_name (clause : ColumnClause) {name : String} (present : name ≠ "")
    (scope : Scope) : clause.compile scope (.string name) =
      .ok (" " ++ clause.keyword ++ " " ++ scope.column name true) := by
  rw [compile, clause.read_name present]
  simp [text, ListedColumn.text]

/-- The left side of a join condition is a column, the right side is taken as it is. -/
theorem JoinCondition.text_of_name {name : String} (present : name ≠ "") (scope : Scope)
    (expression : String) :
    (read (.list [.string name, .string expression])).map (·.text scope) =
      .ok ("ON " ++ scope.column name true ++ " = " ++ expression) := by
  have read : read (.list [.string name, .string expression]) = .ok ⟨name, expression⟩ := by
    simp [read, Value.string, Value.requireList, Value.requireString, Name.require_of_ne present]
  rw [read]
  rfl

/-- A condition, a grouping and an ordering by one column. -/
def Restriction.ofColumn (name : String) : Restriction :=
  ⟨some (.list [.string name]), ⟨some (.string name), some (.string name), .none, .none⟩⟩

/-- In such a tail the column is written three times, and alike. -/
theorem Restriction.compile_ofColumn {name : String} (present : name ≠ "") (scope : Scope) :
    (ofColumn name).compile scope true =
      .ok ⟨" WHERE ( " ++ scope.column name true ++ " = ? )" ++
        (" GROUP BY " ++ scope.column name true ++ (" ORDER BY " ++ scope.column name true)),
        []⟩ := by
  have compared := SearchCondition.compile_name present scope true .and
  have shown : whereClause ⟨"( " ++ (scope.column name true ++ " = ?") ++ " )", []⟩ =
      ⟨" WHERE ( " ++ scope.column name true ++ " = ? )", []⟩ := by
    rw [whereClause_of_text_ne_empty (by simp)]
    refine Statement.ext (String.toList_inj.mp ?_) rfl
    simp [Statement.text_append, Statement.ofText]
  have modified : (ofColumn name).modifiers.compile scope =
      .ok (" GROUP BY " ++ scope.column name true ++ (" ORDER BY " ++ scope.column name true)) := by
    have grouped := ColumnClause.compile_name .groupBy present scope
    have ordered := ColumnClause.compile_name .orderBy present scope
    rw [Modifiers.compile]
    dsimp only [ofColumn, Modifiers.optional]
    rw [grouped, ordered]
    simp only [Outcome.ok_bind, Outcome.pure_eq, String.append_empty]
    rfl
  rw [compile, modified]
  dsimp only [ofColumn, compileFilter]
  rw [compared, Outcome.ok_bind, shown]
  rfl

/-- The columns of a selection are written alike wherever they stand: as fields, and as the column
by which the rows are restricted, grouped and ordered. -/
theorem Compiler.compile_select_columns {compiler : Compiler} {table : Value} {source : String}
    {names : List String} {name : String} (found : compiler.table table = .ok source)
    (listed : name ∈ names)
    (columns : ∀ other ∈ names, Name.IsColumn other ∧ Name.IsBareOrPointed other) :
    compiler.compile
        (.select table (some (.list (names.map Value.string))) (.ofColumn name)) =
      .ok ⟨"SELECT " ++ ",".intercalate (names.map (compiler.scope.column · true)) ++
        " FROM " ++ source ++ (" WHERE ( " ++ compiler.scope.column name true ++ " = ? )" ++
        (" GROUP BY " ++ compiler.scope.column name true ++
          (" ORDER BY " ++ compiler.scope.column name true))), []⟩ := by
  have present : ∀ other ∈ names, other ≠ "" := fun other member => (columns other member).1.present
  have selected : compiler.selected (some (.list (names.map Value.string))) =
      (.ok (",".intercalate (names.map (compiler.scope.column · true))), compiler.scope) := by
    have alike : names.map (Projection.columnText compiler.scope) =
        names.map (compiler.scope.column · true) :=
      List.map_congr_left fun other member =>
        (Projection.columnText_eq_column_iff (columns other member).1 _).mpr (columns other member).2
    have some : ¬ (Value.list (names.map Value.string)).isEmpty = true := by
      simpa [Value.isEmpty] using List.ne_nil_of_mem listed
    rw [selected, if_neg some, Projection.compile_names present, alike]
  rw [compile, selectHead, found, selected]
  simp only [Outcome.ok_bind, Outcome.pure_eq]
  rw [Restriction.compile_ofColumn (present name listed)]
  rfl

/-- Conditions, join conditions, groupings and orderings write a column in one way. As a field it is
written in that way too, unless it is a name that is quoted already and has no point: that one stands
for itself everywhere else, and is quoted a second time as a field. So the columns of a selection of
other names are written alike as its fields and wherever else they stand in it. -/
theorem Scope.clauses_agree_iff {name : String} (column : Name.IsColumn name) :
    (∀ scope : Scope,
      (∀ clause : ColumnClause, clause.compile scope (.string name) =
        .ok (" " ++ clause.keyword ++ " " ++ scope.column name true)) ∧
      (∀ ambient, SearchCondition.compile scope true ambient (.list [.string name]) =
        .ok ⟨"( " ++ (scope.column name true ++ " = ?") ++ " )", []⟩) ∧
      (∀ ambient value comparison, Directive.isKey name = false →
        Comparison.read name value = .ok comparison →
        SearchCondition.compile scope true ambient (.map ⟨[(name, value)]⟩) =
          .ok ⟨"( " ++ (scope.column name true ++ " " ++ comparison.operator.text ++ " " ++
            comparison.placeholder) ++ " )", comparison.operands⟩) ∧
      (∀ expression,
        (JoinCondition.read (.list [.string name, .string expression])).map (·.text scope) =
          .ok ("ON " ++ scope.column name true ++ " = " ++ expression))) ∧
    (∀ scope : Scope, ∃ field, Projection.compile scope (.string name) = (.ok field, scope) ∧
      (field = scope.column name true ↔ Name.IsBareOrPointed name) ∧
      (¬ Name.IsBareOrPointed name →
        field = scope.qualify (Name.quote name) ∧ scope.column name true = name)) ∧
    ∀ (compiler : Compiler) (table : Value) (source : String) (names : List String),
      compiler.table table = .ok source → name ∈ names →
      (∀ other ∈ names, Name.IsColumn other ∧ Name.IsBareOrPointed other) →
      compiler.compile
          (.select table (some (.list (names.map Value.string))) (.ofColumn name)) =
        .ok ⟨"SELECT " ++ ",".intercalate (names.map (compiler.scope.column · true)) ++
          " FROM " ++ source ++ (" WHERE ( " ++ compiler.scope.column name true ++ " = ? )" ++
          (" GROUP BY " ++ compiler.scope.column name true ++
            (" ORDER BY " ++ compiler.scope.column name true))), []⟩ := by
  have present := column.present
  refine ⟨fun scope => ⟨?_, ?_, ?_, ?_⟩, fun scope => ?_, ?_⟩
  · exact fun clause => clause.compile_name present scope
  · exact SearchCondition.compile_name present scope true
  · exact fun ambient _ _ plain compared =>
      SearchCondition.compile_entry present plain compared scope true ambient
  · exact JoinCondition.text_of_name present scope
  · exact ⟨_, Projection.compile_name present scope,
      Projection.columnText_eq_column_iff column scope,
      fun quoted => Projection.columnText_of_quoted column quoted scope⟩
  · exact fun _ _ _ _ found listed columns =>
      Compiler.compile_select_columns found listed columns

theorem Scope.clauses_agree_iff_pointedName :
    (∃ field, Projection.compile (.start "me") (.string "`u`.`id`") = (.ok field, .start "me") ∧
      field = (Scope.start "me").column "`u`.`id`" true) ∧
    Compiler.standard.compile
        (.select (.string "user") (some (.list [.string "name", .string "`u`.`id`"]))
          (.ofColumn "`u`.`id`")) =
      .ok ⟨"SELECT `me`.`name`,`u`.`id` FROM `user` `me` WHERE ( `u`.`id` = ? )" ++
        " GROUP BY `u`.`id` ORDER BY `u`.`id`", []⟩ := by
  have column : Name.IsColumn "`u`.`id`" := ⟨by decide, by decide, by decide⟩
  have other : Name.IsColumn "name" := ⟨by decide, by decide, by decide⟩
  obtain ⟨-, fields, selections⟩ := clauses_agree_iff column
  obtain ⟨field, compiled, alike, -⟩ := fields (.start "me")
  refine ⟨⟨field, compiled, alike.mpr (by decide)⟩, ?_⟩
  exact selections .standard (.string "user") _ ["name", "`u`.`id`"] (by rfl) (by decide)
    (List.forall_mem_cons.mpr ⟨⟨other, by decide⟩,
      List.forall_mem_singleton.mpr ⟨column, by decide⟩⟩)

/-- A name that is quoted already is quoted a second time as a field, and stands for itself in the
rest of the same selection. -/
theorem Scope.quotedName_compiled :
    Name.IsColumn "`id`" ∧
      Projection.compile (.start "me") (.string "`id`") = (.ok "`me`.``id``", .start "me") ∧
      (Scope.start "me").column "`id`" true = "`id`" ∧
      ColumnClause.groupBy.compile (.start "me") (.string "`id`") = .ok " GROUP BY `id`" ∧
      Compiler.standard.compile
          (.select (.string "user") (some (.list [.string "`id`"])) (.ofColumn "`id`")) =
        .ok ⟨"SELECT `me`.``id`` FROM `user` `me` WHERE ( `id` = ? )" ++
          " GROUP BY `id` ORDER BY `id`", []⟩ :=
  ⟨⟨by decide, by decide, by decide⟩, by rfl, by decide, by decide, by rfl⟩

end ParamSql
