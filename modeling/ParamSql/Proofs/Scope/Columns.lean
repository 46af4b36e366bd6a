import ParamSql.Proofs.Modifiers.Grammar

/-!
# Columns that are written already

A column as it is written stands for itself: it is quoted, or names its table, so that it is written
the same once more, in whatever scope. Qualifying a text knows the declared aliases only, and comes
to rest where none of them has been lost. A grouping clause can therefore be given the columns that
it consists of.
-/
namespace ParamSql

namespace Name

theorem isQualified_iff {name : String} :
    isQualified name = true ↔ delimiter ∈ name.toList ∨ '.' ∈ name.toList := by
  simp [isQualified, and_or_left, exists_or]

theorem ne_empty_of_isQualified {name : String} (qualified : isQualified name = true) :
    name ≠ "" := by
  rintro rfl
  exact absurd qualified (by decide)

end Name

namespace Scope

theorem column_of_isQualified {name : String} (qualified : Name.isQualified name = true)
    (scope : Scope) (prefixed : Bool) : scope.column name prefixed = name :=
  if_pos qualified

/-- Whatever the name, the column is quoted or names its table. -/
theorem isQualified_column (scope : Scope) (name : String) (prefixed : Bool) :
    Name.isQualified (scope.column name prefixed) = true := by
  have quoted := Name.isQualified_quote name
  have qualified : Name.isQualified (scope.qualify (Name.quote name)) = true := by
    unfold qualify
    split
    · exact quoted
    · exact Name.isQualified_iff.mpr (.inr (by simp))
  unfold column
  split_ifs with given
  · exact given
  · exact qualified
  · exact quoted

/-- A column that is written is written the same once more, in every scope. -/
theorem column_column (scope other : Scope) (name : String) (first second : Bool) :
    other.column (scope.column name first) second = scope.column name first :=
  column_of_isQualified (scope.isQualified_column name first) other second

/-- To qualify twice is to qualify once, as long as no alias is lost in between. -/
theorem qualify_qualify {scope other : Scope} (kept : scope.declared ⊆ other.declared)
    (quoted : String) : other.qualify (scope.qualify quoted) = scope.qualify quoted := by
  by_cases left : (scope.declares quoted || quoted.toList.contains '.') = true
  · rw [qualify, qualify, if_pos left]
    refine if_pos (Bool.or_eq_true_iff.mpr ?_)
    refine (Bool.or_eq_true_iff.mp left).imp_left fun declared => ?_
    exact List.contains_iff_mem.mpr (kept (List.contains_iff_mem.mp declared))
  · -- a text that has been prefixed has a point in it
    have written : scope.qualify quoted = Name.quote scope.defaultAlias ++ "." ++ quoted :=
      if_neg left
    rw [written]
    exact if_pos (Bool.or_eq_true_iff.mpr (.inr (by simp)))

theorem declared_subset_declareAll (scope : Scope) (later : List String) :
    scope.declared ⊆ (scope.declareAll later).declared :=
  fun _ member => mem_declared_declareAll.mpr (.inr member)

end Scope

namespace ColumnClause

theorem read_name (clause : ColumnClause) {name : String} (present : name ≠ "") :
    clause.read (.string name) = .ok [⟨name, []⟩] := by
  simp [Value.string, read, Value.requireString, Name.require_of_ne present]

/-- A list of names is read as these columns, without directions. -/
theorem readItems_names (clause : ColumnClause) {names : List String}
    (present : ∀ name ∈ names, name ≠ "") :
    clause.readItems (names.map Value.string) = .ok (names.map (⟨·, []⟩)) := by
  induction names with
  | nil => rfl
  | cons name rest ih =>
    obtain ⟨here, there⟩ := List.forall_mem_cons.mp present
    simp [readItems, clause.read_name here, ih there]

theorem compile_names (clause : ColumnClause) (scope : Scope) {names : List String}
    (some : names ≠ []) (present : ∀ name ∈ names, name ≠ "") :
    clause.compile scope (.list (names.map Value.string)) =
      .ok (" " ++ clause.keyword ++ " " ++ ",".intercalate (names.map (scope.column · true))) := by
  have columns : ((names.map (⟨·, []⟩ : String → ListedColumn)).map (·.text scope)) =
      names.map (scope.column · true) := by
    rw [List.map_map]
    rfl
  have read : clause.read (.list (names.map Value.string)) = .ok (names.map (⟨·, []⟩)) :=
    clause.readItems_names present
  rw [compile, read, Outcome.ok_bind, text, columns, if_neg (by simpa using some)]

/-- A grouping clause shows the leaves of its description, and nothing but columns. -/
theorem groupBy_columns {scope : Scope} {spec : Value} {text : String}
    (success : groupBy.compile scope spec = .ok text) :
    spec.leaves ≠ [] ∧ text = " GROUP BY " ++ ",".intercalate
      (spec.leaves.map fun leaf => scope.column leaf.name true) := by
  obtain ⟨admitted, -, some, shown⟩ := compile_eq_ok_iff.mp success
  have bare : spec.maps = [] := List.eq_nil_iff_forall_not_mem.mpr admitted
  have texts : spec.leaves.map (·.text scope) =
      spec.leaves.map fun leaf => scope.column leaf.name true := by
    refine List.map_congr_left fun leaf member => ?_
    rw [Value.Leaf.text, Value.keys_of_maps_eq_nil bare leaf member]
    exact String.append_empty
  exact ⟨some, by rw [shown, texts]; rfl⟩

end ColumnClause

/-- Columns come to rest when they are written. A column that has been written, whether or not it
was prefixed, is written the same in every other scope, with and without a prefix. A text that has
been qualified stays as it is when more aliases have been declared. So a grouping clause that
compiles consists of columns which, given as a list of names, lead to the same clause in every
scope. -/
theorem Scope.columns_stable :
    (∀ (scope other : Scope) (name : String) (first second : Bool),
      other.column (scope.column name first) second = scope.column name first) ∧
    (∀ (scope : Scope) (later : List String) (quoted : String),
      (scope.declareAll later).qualify (scope.qualify quoted) = scope.qualify quoted) ∧
    ∀ (scope : Scope) (spec : Value) (text : String),
      ColumnClause.groupBy.compile scope spec = .ok text →
      ∃ columns : List String,
        columns = (spec.leaves.map fun leaf => scope.column leaf.name true) ∧
        text = " GROUP BY " ++ ",".intercalate columns ∧
        ∀ other : Scope,
          ColumnClause.groupBy.compile other (.list (columns.map Value.string)) = .ok text := by
  refine ⟨column_column, fun scope later =>
    qualify_qualify (scope.declared_subset_declareAll later), ?_⟩
  intro scope spec text success
  obtain ⟨some, shown⟩ := ColumnClause.groupBy_columns success
  refine ⟨_, rfl, shown, fun other => ?_⟩
  have present : ∀ column ∈ spec.leaves.map (fun leaf => scope.column leaf.name true),
      column ≠ "" :=
    List.forall_mem_map.mpr fun leaf _ =>
      Name.ne_empty_of_isQualified (scope.isQualified_column leaf.name true)
  have again : (spec.leaves.map fun leaf => scope.column leaf.name true).map
      (other.column · true) = spec.leaves.map fun leaf => scope.column leaf.name true := by
    rw [List.map_map]
    exact List.map_congr_left fun leaf _ => column_column scope other leaf.name true true
  rw [ColumnClause.compile_names .groupBy other (mt List.map_eq_nil_iff.mp some) present, again,
    shown]
  rfl

/-- Names of four forms, one of them an alias that has been declared, in nested lists. -/
def groupedNames : Value :=
  .list [.string "total", .list [.string "book", .list []], .list [.string "u.c", .string "`x`"]]

theorem Scope.columns_stable_groupedNames :
    ColumnClause.groupBy.compile ⟨"me", ["`total`"]⟩ groupedNames =
        .ok " GROUP BY `total`,`me`.`book`,u.c,`x`" ∧
      ∀ other : Scope, ColumnClause.groupBy.compile other
          (.list (["`total`", "`me`.`book`", "u.c", "`x`"].map Value.string)) =
        .ok " GROUP BY `total`,`me`.`book`,u.c,`x`" := by
  have success : ColumnClause.groupBy.compile ⟨"me", ["`total`"]⟩ groupedNames =
      .ok " GROUP BY `total`,`me`.`book`,u.c,`x`" := by decide
  obtain ⟨columns, rfl, -, again⟩ := columns_stable.2.2 _ _ _ success
  exact ⟨success, again⟩

end ParamSql
