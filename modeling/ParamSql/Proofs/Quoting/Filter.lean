import ParamSql.Proofs.Placeholders.Filter
import ParamSql.Proofs.Quoting.Basic

/-!
# The names in a filter

A clause consists of its leaves, with words of SQL around them, and a leaf of its column, a
built-in operator or one that was given, and placeholders. So the only names in the text of a filter
are its columns and the default alias.
-/
namespace ParamSql

open Text

namespace SearchCondition

variable {holds : String → Prop}

theorem holds_enclose (kept : Compositional holds) (connective : Connective) {clauses : List String}
    (each : ∀ text ∈ clauses, holds text) : holds (enclose connective clauses) := by
  have separator : holds connective.separator := kept.word (by cases connective <;> decide)
  have opening : holds "( " := kept.word (by decide)
  have closing : holds " )" := kept.word (by decide)
  unfold enclose
  split
  · exact kept.empty
  · exact kept.append (kept.append opening (kept.intercalate separator each)) closing

section

variable (column : String → String)

mutual

/-- What holds of the texts of all leaves holds of the clause. -/
theorem holds_clause (kept : Compositional holds) : ∀ (ambient : Connective)
    (condition : SearchCondition), (∀ leaf ∈ condition.leaves, holds (leaf.text column)) →
      holds (condition.clause column ambient)
  | _, .unbound name, each => each ⟨name, none⟩ List.mem_cons_self
  | _, .compared name comparison, each => each ⟨name, some comparison⟩ List.mem_cons_self
  | ambient, .group connective parts, each =>
    holds_enclose kept _ (holds_clauses kept (connective.getD ambient) parts each)

theorem holds_clauses (kept : Compositional holds) : ∀ (ambient : Connective)
    (parts : List SearchCondition), (∀ leaf ∈ leavesOfParts parts, holds (leaf.text column)) →
      ∀ text ∈ clauses column ambient parts, holds text
  | _, [], _ => nofun
  | ambient, part :: rest, each => by
    obtain ⟨here, there⟩ := List.forall_mem_append.mp each
    have first := holds_clause kept ambient part here
    have others := holds_clauses kept ambient rest there
    simp only [clauses]
    split
    · exact others
    · exact List.forall_mem_cons.mpr ⟨first, others⟩

end

end

end SearchCondition

theorem Placeholder.undelimited_tuple (width : Nat) : Undelimited (tuple width) := by
  have inner : Undelimited (",".intercalate (List.replicate width "?")) :=
    avoids_intercalate (by decide) fun text member =>
      (List.eq_of_mem_replicate member).symm ▸ by decide
  exact avoids_append.mpr ⟨avoids_append.mpr ⟨by decide, inner⟩, by decide⟩

theorem Comparison.undelimited_placeholder (comparison : Comparison) :
    Undelimited comparison.placeholder := by
  unfold placeholder Operator.placeholder
  split
  · exact Placeholder.undelimited_tuple _
  · split <;> decide

variable {known : List String} {column : String → String}

namespace Filter.Condition

/-- A leaf has no names beside its column. -/
theorem Describes.quoting_text {given : Condition} {leaf : SearchCondition.Leaf}
    (described : given.Describes leaf)
    (written : given.column ≠ "" → Quoting known (column given.column))
    (plain : ∀ text ∈ given.texts, Undelimited text) : Quoting known (leaf.text column) := by
  have kept : Compositional (Quoting known) := compositional_quoting
  cases described with
  | bare present => exact kept.append (written present) (.plain (by decide))
  | @entry name value comparison present compared =>
    have operator := holds_operator kept compared fun text member => .plain (plain text member)
    have space : Quoting known " " := kept.word (by decide)
    have placeholder := comparison.undelimited_placeholder
    exact kept.append (kept.append (kept.append (kept.append (written present) space) operator)
      space) (.plain placeholder)

end Filter.Condition

namespace SearchCondition

open ParamSql.Filter

theorem quoting_leaves {given : List Condition} {leaves : List Leaf}
    (described : List.Forall₂ Condition.Describes given leaves)
    (written : ∀ name ∈ given.map (·.column), name ≠ "" → Quoting known (column name))
    (plain : ∀ text ∈ given.flatMap Condition.texts, Undelimited text) :
    ∀ leaf ∈ leaves, Quoting known (leaf.text column) := by
  induction described with
  | nil => exact nofun
  | @cons condition leaf given leaves first rest ih =>
    simp only [List.map_cons, List.forall_mem_cons] at written
    simp only [List.flatMap_cons, List.forall_mem_append] at plain
    exact List.forall_mem_cons.mpr ⟨first.quoting_text written.1 plain.1, ih written.2 plain.2⟩

/-- The names in the text of a filter are its columns and the default alias. -/
theorem quoting_compile {scope : Scope} {prefixed : Bool} {ambient : Connective} {spec : Value}
    {statement : Statement} (base : Quoting known (Name.quote scope.defaultAlias))
    (spelled : ∀ name ∈ columns spec, name ≠ "" → Spelled (Quoting known) name)
    (plain : ∀ text ∈ texts spec, Undelimited text)
    (success : compile scope prefixed ambient spec = .ok statement) :
    Quoting known statement.text := by
  obtain ⟨condition, accepted, same⟩ := Outcome.bind_eq_ok.mp success
  cases same
  have written (name : String) (member : name ∈ columns spec) (present : name ≠ "") :
      Quoting known (scope.column name prefixed) :=
    Scope.holds_column compositional_quoting base (spelled name member present) prefixed
  exact holds_clause _ compositional_quoting ambient condition
    (quoting_leaves (leaves_of_read accepted) written plain)

end SearchCondition

end ParamSql
