import ParamSql.Proofs.Modifiers.Grammar
import ParamSql.Proofs.Text.Parts

/-!
# The directions of ordered columns

Every item of an ordering clause is one column, followed by one direction for each map around it,
the innermost first. So a map inside a map gives an item more than one direction, and nothing else
does.
-/
namespace ParamSql

open Text

/-- Neither a comma nor a blank stands in the text. -/
abbrev Text.Unbroken (text : String) : Prop := Avoids ',' text ∧ Avoids ' ' text

theorem Scope.avoids_column {scope : Scope} {c : Char} {name : String}
    (apart : c ≠ Name.delimiter) (point : c ≠ '.') (base : Avoids c scope.defaultAlias)
    (given : Avoids c name) (prefixed : Bool) : Avoids c (scope.column name prefixed) := by
  have quoted : Avoids c (Name.quote name) := (avoids_quote apart).mpr given
  have qualified : Avoids c (scope.qualify (Name.quote name)) := by
    unfold qualify
    split
    · exact quoted
    · exact avoids_append.mpr ⟨avoids_append.mpr ⟨(avoids_quote apart).mpr base,
        by simp [Avoids, point]⟩, quoted⟩
  unfold column
  split_ifs
  · exact given
  · exact qualified
  · exact quoted

theorem Scope.unbroken_column {scope : Scope} {name : String} (base : Unbroken scope.defaultAlias)
    (given : Unbroken name) (prefixed : Bool) : Unbroken (scope.column name prefixed) :=
  ⟨avoids_column (by decide) (by decide) base.1 given.1 prefixed,
    avoids_column (by decide) (by decide) base.2 given.2 prefixed⟩

namespace Direction

theorem unbroken_keyword (direction : Direction) : Unbroken direction.keyword := by
  cases direction <;> decide

theorem length_keyword (direction : Direction) :
    3 ≤ direction.keyword.length ∧ direction.keyword.length ≤ 4 := by
  cases direction <;> decide

/-- The item is the column by itself, or the column followed by one direction. -/
def AtMostOne (column item : String) : Prop :=
  item = column ∨ ∃ direction : Direction, item = column ++ " " ++ direction.keyword

end Direction

namespace ListedColumn

/-- The words of a column as an item: the column, and one keyword for each of its directions. -/
def words (scope : Scope) (column : ListedColumn) : List String :=
  scope.column column.name true :: column.directions.map Direction.keyword

theorem text_eq_intercalate (scope : Scope) (column : ListedColumn) :
    column.text scope = " ".intercalate (column.words scope) := by
  rw [text_eq, words, intercalate_cons, List.map_map]
  rfl

/-- An item has at most one direction when the column has: two keywords are longer than one. -/
theorem atMostOne_text_iff (scope : Scope) (column : ListedColumn) :
    Direction.AtMostOne (scope.column column.name true) (column.text scope) ↔
      column.directions.length ≤ 1 := by
  rw [text_eq]
  match column.directions with
  | [] => exact iff_of_true (.inl (by simp)) (by simp)
  | [direction] => exact iff_of_true (.inr ⟨direction, by simp [String.append_assoc]⟩) (Nat.le_refl 1)
  | first :: second :: rest =>
    refine iff_of_false ?_ (by simp)
    have longFirst := first.length_keyword
    have longSecond := second.length_keyword
    rintro (same | ⟨direction, same⟩)
    · have lengths := congrArg String.length same
      simp at lengths
    · have short := direction.length_keyword
      have lengths := congrArg String.length same
      simp only [List.map_cons, String.join_cons, String.length_append] at lengths
      omega

theorem unbroken_words {scope : Scope} {column : ListedColumn} (base : Unbroken scope.defaultAlias)
    (given : Unbroken column.name) : ∀ word ∈ column.words scope, Unbroken word :=
  List.forall_mem_cons.mpr ⟨Scope.unbroken_column base given true,
    List.forall_mem_map.mpr fun direction _ => direction.unbroken_keyword⟩

theorem avoids_comma_text {scope : Scope} {column : ListedColumn}
    (base : Unbroken scope.defaultAlias) (given : Unbroken column.name) :
    Avoids ',' (column.text scope) := by
  rw [text_eq_intercalate]
  exact avoids_intercalate (by decide) fun word member => (unbroken_words base given word member).1

theorem parts_text {scope : Scope} {column : ListedColumn} (base : Unbroken scope.defaultAlias)
    (given : Unbroken column.name) : parts ' ' (column.text scope) = column.words scope := by
  rw [text_eq_intercalate]
  exact parts_intercalate rfl (List.cons_ne_nil _ _)
    fun word member => (unbroken_words base given word member).2

end ListedColumn

namespace ColumnClause

/-- The items of an ordering clause are the leaves of its description: each is the column, followed
by one keyword for each map around it, and so by at most one exactly when there is at most one map
around it. This holds of all items if no map stands inside a map. When the default alias and the
names have no commas and blanks in them, the items are the parts of the clause between its commas,
and their words are the parts of the items between the blanks. -/
theorem orderBy_directions {scope : Scope} {spec : Value} {text : String}
    (success : orderBy.compile scope spec = .ok text) :
    text = " ORDER BY " ++ ",".intercalate (spec.leaves.map (·.text scope)) ∧
    (∀ leaf ∈ spec.leaves, ∃ directions : List Direction,
      List.Forall₂ (fun key direction => direction.directive.SpelledBy key)
        leaf.keys directions ∧
      leaf.text scope =
        " ".intercalate (scope.column leaf.name true :: directions.map Direction.keyword) ∧
      (Direction.AtMostOne (scope.column leaf.name true) (leaf.text scope) ↔
        leaf.keys.length ≤ 1) ∧
      (Unbroken scope.defaultAlias → Unbroken leaf.name → parts ' ' (leaf.text scope) =
        scope.column leaf.name true :: directions.map Direction.keyword)) ∧
    (spec.Unnested → ∀ leaf ∈ spec.leaves,
      Direction.AtMostOne (scope.column leaf.name true) (leaf.text scope)) ∧
    (Unbroken scope.defaultAlias → (∀ leaf ∈ spec.leaves, Unbroken leaf.name) →
      parts ',' (",".intercalate (spec.leaves.map (·.text scope))) =
        spec.leaves.map (·.text scope)) := by
  obtain ⟨columns, inside, -⟩ := Outcome.bind_eq_ok.mp success
  obtain ⟨-, -, present, shown⟩ := compile_eq_ok_iff.mp success
  have describes := (lists_of_read inside).exists_describes
  have single : ∀ leaf ∈ spec.leaves,
      (Direction.AtMostOne (scope.column leaf.name true) (leaf.text scope) ↔
        leaf.keys.length ≤ 1) := by
    intro leaf member
    obtain ⟨column, described⟩ := describes leaf member
    rw [← described.text_eq scope, described.name_eq, column.atMostOne_text_iff,
      described.directions.length_eq]
  refine ⟨shown, ?_, ?_, ?_⟩
  · intro leaf member
    obtain ⟨column, described⟩ := describes leaf member
    refine ⟨column.directions, described.directions, ?_, single leaf member, ?_⟩
    · rw [← described.text_eq scope, described.name_eq, column.text_eq_intercalate]
      rfl
    · rw [← described.text_eq scope, described.name_eq]
      exact ListedColumn.parts_text
  · intro flat leaf member
    exact (single leaf member).mpr (flat.length_keys_le_one leaf member)
  · intro base names
    refine parts_intercalate rfl (mt List.map_eq_nil_iff.mp present) ?_
    refine List.forall_mem_map.mpr fun leaf member => ?_
    obtain ⟨column, described⟩ := describes leaf member
    rw [← described.text_eq scope]
    exact ListedColumn.avoids_comma_text base (described.name_eq ▸ names leaf member)

/-- A column alone and a direction above two columns. -/
def singlyDirected : Value :=
  .list [.string "b", .map ⟨[("-DESC", .list [.string "a", .string "u.c"])]⟩]

/-- The second of the two columns has a direction of its own. -/
def innerDirected : Value :=
  .list [.string "b", .map ⟨[("-DESC", .list [.string "a", .map ⟨[("-asc", .string "u.c")]⟩])]⟩]

theorem orderBy_directions_innerDirected :
    orderBy.compile (.start "me") singlyDirected =
        .ok " ORDER BY `me`.`b`,`me`.`a` DESC,u.c DESC" ∧
      (∀ leaf ∈ singlyDirected.leaves, Direction.AtMostOne
        ((Scope.start "me").column leaf.name true) (leaf.text (.start "me"))) ∧
      parts ',' "`me`.`b`,`me`.`a` DESC,u.c DESC" = ["`me`.`b`", "`me`.`a` DESC", "u.c DESC"] ∧
      orderBy.compile (.start "me") innerDirected =
        .ok " ORDER BY `me`.`b`,`me`.`a` DESC,u.c ASC DESC" ∧
      parts ',' "`me`.`b`,`me`.`a` DESC,u.c ASC DESC" =
        ["`me`.`b`", "`me`.`a` DESC", "u.c ASC DESC"] ∧
      ¬ Direction.AtMostOne "u.c" "u.c ASC DESC" ∧
      ∃ directions : List Direction,
        List.Forall₂ (fun key direction => direction.directive.SpelledBy key)
          ["-asc", "-DESC"] directions ∧
        parts ' ' "u.c ASC DESC" = "u.c" :: directions.map Direction.keyword := by
  have single : orderBy.compile (.start "me") singlyDirected =
      .ok " ORDER BY `me`.`b`,`me`.`a` DESC,u.c DESC" := by decide
  have double : orderBy.compile (.start "me") innerDirected =
      .ok " ORDER BY `me`.`b`,`me`.`a` DESC,u.c ASC DESC" := by decide
  obtain ⟨-, -, atMostOne, separate⟩ := orderBy_directions single
  have flat : singlyDirected.Unnested := List.forall_mem_singleton.mpr rfl
  obtain ⟨-, directed, -, separateInner⟩ := orderBy_directions double
  -- the column below both maps, with their keys from the inside
  have inner : (⟨.string "u.c", ["-asc", "-DESC"]⟩ : Value.Leaf) ∈ innerDirected.leaves := by decide
  obtain ⟨directions, spelled, -, counted, words⟩ := directed _ inner
  exact ⟨single, atMostOne flat, separate (by decide) (by decide), double,
    separateInner (by decide) (by decide), mt counted.mp (by decide), directions, spelled,
    words (by decide) (by decide)⟩

/-- A direction above a direction. -/
def doublyDirected : Value := .map ⟨[("-asc", .map ⟨[("-desc", .string "a")]⟩)]⟩

/-- Its one item is not a single column with at most one direction. And a default alias with a comma
divides an item that is such a column. -/
theorem orderBy_doublyDirected :
    orderBy.compile (.start "me") doublyDirected = .ok " ORDER BY `me`.`a` DESC ASC" ∧
      (∀ leaf ∈ doublyDirected.leaves, Unbroken leaf.name) ∧
      parts ',' "`me`.`a` DESC ASC" = ["`me`.`a` DESC ASC"] ∧
      (∀ name, Unbroken name →
        ¬ Direction.AtMostOne ((Scope.start "me").column name true) "`me`.`a` DESC ASC") ∧
      orderBy.compile (.start "x,y") (.string "a") = .ok " ORDER BY `x,y`.`a`" ∧
      parts ',' "`x,y`.`a`" = ["`x", "y`.`a`"] := by
  refine ⟨by decide, by decide, by decide, ?_, by decide, by decide⟩
  intro name given single
  have column : Avoids ' ' ((Scope.start "me").column name true) :=
    (Scope.unbroken_column (by decide) given true).2
  -- The item has two blanks, and a column with one direction has one.
  obtain same | ⟨direction, same⟩ := single
  · exact absurd (same ▸ column) (by decide)
  · have blanks := congrArg (·.toList.count ' ') same
    have keyword := direction.unbroken_keyword.2
    simp [List.count_eq_zero.mpr column, List.count_eq_zero.mpr keyword] at blanks

end ColumnClause

end ParamSql
