import ParamSql.Proofs.Filter.Emptiness
import ParamSql.Proofs.Placeholders.Count
import ParamSql.Proofs.Text.Compositional

/-!
# The placeholders of a filter

The clauses and the values of a filter are written separately, and empty groups leave no clause.
Both go by the leaves of the filter, so that the placeholders of a clause add up to those of its
leaves, and each leaf accounts for its own.
-/
namespace ParamSql

open Text

namespace SearchCondition

/-- The clause of a leaf. -/
def Leaf.text (column : String → String) : Leaf → String
  | ⟨name, none⟩ => column name ++ " = ?"
  | ⟨name, some comparison⟩ =>
    column name ++ " " ++ comparison.operator.text ++ " " ++ comparison.placeholder

theorem count_enclose (connective : Connective) (clauses : List String) :
    Placeholder.count (enclose connective clauses) = Placeholder.total clauses := by
  have separated : Unmarked connective.separator := by cases connective <;> decide
  have opening : Placeholder.count "( " = 0 := rfl
  have closing : Placeholder.count " )" = 0 := rfl
  unfold enclose
  split
  · next none =>
    rw [List.isEmpty_iff.mp none]
    rfl
  · simp [Placeholder.count_intercalate separated, opening, closing]

section

variable (column : String → String)

mutual

/-- The placeholders of a clause are those of its leaves. -/
theorem count_clause : ∀ (ambient : Connective) (condition : SearchCondition),
    Placeholder.count (condition.clause column ambient) =
      Placeholder.total (condition.leaves.map (·.text column))
  | _, .unbound name => by simp [clause, leaves, Leaf.text, Placeholder.total]
  | _, .compared name comparison => by simp [clause, leaves, Leaf.text, Placeholder.total]
  | ambient, .group connective parts => by
    rw [clause, count_enclose, leaves, total_clauses]

theorem total_clauses : ∀ (ambient : Connective) (parts : List SearchCondition),
    Placeholder.total (clauses column ambient parts) =
      Placeholder.total ((leavesOfParts parts).map (·.text column))
  | _, [] => rfl
  | ambient, part :: rest => by
    have first := count_clause ambient part
    have others := total_clauses ambient rest
    rw [leavesOfParts, List.map_append, Placeholder.total_append, ← first, ← others, clauses]
    split
    -- a clause without text is left out, and has no placeholders
    · next empty =>
      rw [String.isEmpty_iff.mp empty]
      simp
    · rfl

end

end

end SearchCondition

namespace Operator

theorem placeholder_membership (count : Nat) :
    membership.placeholder count = Placeholder.tuple count :=
  rfl

theorem placeholder_range (count : Nat) : range.placeholder count = "? AND ?" := rfl

theorem count_placeholder_raw (name : String) :
    Placeholder.count (placeholder ⟨name⟩ 1) = 1 + if name = "BETWEEN" then 1 else 0 := by
  by_cases member : name = "IN"
  · subst member
    rfl
  · by_cases ranged : name = "BETWEEN"
    · subst ranged
      rfl
    · have single : placeholder ⟨name⟩ 1 = "?" := by
        simp [placeholder, membership, range, member, ranged]
      rw [single, if_neg ranged]
      rfl

end Operator

/-- The placeholders to the right of an operator are as many as its operands, except under the
operator `BETWEEN` of a caller, where there is one more. -/
theorem Comparison.count_placeholder (name : String) {value : Value} {comparison : Comparison}
    (described : Describes value comparison) :
    Placeholder.count comparison.placeholder =
      comparison.operands.length +
        if (Filter.Condition.entry name value).isRawRange then 1 else 0 := by
  have directive {key : String} {found : Directive}
      (known : Directive.read key = .ok (some found)) : key ≠ "BETWEEN" := by
    rintro rfl
    cases known
  -- only a raw operator can be `BETWEEN` in capitals without being the directive
  cases described with
  | equality comparable => exact Operator.count_placeholder_raw "="
  | @membership key values known comparable present =>
    have apart := directive known
    simp [placeholder, Operator.placeholder_membership, Placeholder.count_tuple,
      Filter.Condition.isRawRange, KeyedMap.keys, apart]
  | @range key values known comparable two =>
    have apart := directive known
    simp [placeholder, Operator.placeholder_range, two, Filter.Condition.isRawRange,
      KeyedMap.keys, apart]
    rfl
  | @raw operator value known comparable =>
    simp [placeholder, Operator.count_placeholder_raw, Filter.Condition.isRawRange, KeyedMap.keys]

namespace Filter

namespace Condition

/-- The texts that a condition supplies: its column and its operator. -/
def texts : Condition → List String
  | bare column => [column]
  | entry column (.map fields) => column :: fields.keys
  | entry column _ => [column]

theorem column_mem_texts (given : Condition) : given.column ∈ given.texts := by
  cases given with
  | bare column => exact List.mem_cons_self
  | entry column value => cases value <;> exact List.mem_cons_self

/-- The operator of a condition is a built-in one or was given. -/
theorem holds_operator {holds : String → Prop} (kept : Compositional holds) {name : String}
    {value : Value} {comparison : Comparison} (described : Comparison.Describes value comparison)
    (given : ∀ text ∈ (entry name value).texts, holds text) : holds comparison.operator.text := by
  cases described with
  | equality comparable => exact kept.word (by decide : IsWord "=")
  | membership known comparable present => exact kept.word (by decide : IsWord "IN")
  | range known comparable two => exact kept.word (by decide : IsWord "BETWEEN")
  | @raw operator value known comparable => exact given operator (by simp [texts, KeyedMap.keys])

/-- A leaf accounts for its placeholders. -/
theorem Describes.count_text {column : String → String} {given : Condition}
    {leaf : SearchCondition.Leaf} (described : given.Describes leaf)
    (written : ∀ name, Unmarked name → Unmarked (column name))
    (unmarked : ∀ text ∈ given.texts, Unmarked text) :
    Placeholder.count (leaf.text column) =
      leaf.operands.length + (if given.isBare then 1 else 0) +
        if given.isRawRange then 1 else 0 := by
  have blank : Placeholder.count " " = 0 := rfl
  cases described with
  | @bare name present =>
    have named := Placeholder.count_of_unmarked (written name (unmarked name (by simp [texts])))
    have bound : Placeholder.count " = ?" = 1 := rfl
    simp [SearchCondition.Leaf.text, SearchCondition.Leaf.operands, isBare, isRawRange, named,
      bound]
  | @entry name value comparison present compared =>
    have listed := (Condition.entry name value).column_mem_texts
    have named := Placeholder.count_of_unmarked (written name (unmarked name listed))
    have operated := Placeholder.count_of_unmarked
      (holds_operator compositional_unmarked compared unmarked)
    have placed := Comparison.count_placeholder name compared
    simp [SearchCondition.Leaf.text, SearchCondition.Leaf.operands, isBare, named, operated, placed,
      blank]

/-- A leaf binds the values of its condition. -/
theorem Describes.operands_leaf {given : Condition} {leaf : SearchCondition.Leaf}
    (described : given.Describes leaf) : leaf.operands.map .scalar = given.operands := by
  cases described with
  | bare present => rfl
  | entry present compared =>
    cases compared with
    | equality | raw => rfl
    | membership | range => simp [SearchCondition.Leaf.operands, operands, KeyedMap.values]

end Condition

/-- The texts that a filter supplies. The values that it binds are none of them. -/
def texts (spec : Value) : List String := (conditions spec).flatMap Condition.texts

theorem columns_subset_texts (spec : Value) : columns spec ⊆ texts spec := by
  intro name member
  obtain ⟨given, listed, rfl⟩ := List.mem_map.mp member
  exact List.mem_flatMap.mpr ⟨given, listed, given.column_mem_texts⟩

/-- The values that a filter gives, in the order of its conditions. -/
def operands (spec : Value) : List Value := (conditions spec).flatMap Condition.operands

end Filter

namespace SearchCondition

open ParamSql.Filter

/-- The leaves of a filter account for their placeholders together. -/
theorem total_text {column : String → String} {given : List Condition} {leaves : List Leaf}
    (described : List.Forall₂ Condition.Describes given leaves)
    (written : ∀ name, Unmarked name → Unmarked (column name))
    (unmarked : ∀ text ∈ given.flatMap Condition.texts, Unmarked text) :
    Placeholder.total (leaves.map (·.text column)) =
      (leaves.flatMap Leaf.operands).length + given.countP (·.isBare) +
        given.countP (·.isRawRange) := by
  induction described with
  | nil => rfl
  | @cons condition leaf given leaves first rest ih =>
    simp only [List.flatMap_cons, List.forall_mem_append] at unmarked
    have here := first.count_text written unmarked.1
    have there := ih unmarked.2
    simp only [List.map_cons, Placeholder.total, List.flatMap_cons, List.length_append,
      List.countP_cons]
    omega

theorem operands_leaves {given : List Condition} {leaves : List Leaf}
    (described : List.Forall₂ Condition.Describes given leaves) :
    (leaves.flatMap Leaf.operands).map .scalar = given.flatMap Condition.operands := by
  induction described with
  | nil => rfl
  | cons first rest ih =>
    rw [List.flatMap_cons, List.flatMap_cons, List.map_append, first.operands_leaf, ih]

/-- A filter accounts for its placeholders, also where a group leaves no text. -/
theorem accounts_compile {scope : Scope} {prefixed : Bool} {ambient : Connective} {spec : Value}
    {statement : Statement} (base : Unmarked scope.defaultAlias)
    (unmarked : ∀ text ∈ texts spec, Unmarked text)
    (success : compile scope prefixed ambient spec = .ok statement) :
    statement.Accounts (Filter.operands spec) (conditions spec) := by
  obtain ⟨condition, accepted, same⟩ := Outcome.bind_eq_ok.mp success
  cases same
  have described := leaves_of_read accepted
  have written (name : String) (named : Unmarked name) : Unmarked (scope.column name prefixed) :=
    Scope.holds_column compositional_unmarked (unmarked_quote.mpr base) (spelled_unmarked named)
      prefixed
  constructor
  · rw [SearchCondition.statement, operands_eq_flatMap, operands_leaves described]
    rfl
  · have counted := total_text described written unmarked
    rw [← count_clause _ ambient] at counted
    rw [SearchCondition.statement, operands_eq_flatMap]
    exact counted

end SearchCondition

end ParamSql
