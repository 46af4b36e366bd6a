import ParamSql.Proofs.Filter.Emptiness
import ParamSql.Proofs.Restriction.Restrictable

/-!
# What a filter changes

A filter restricts a statement exactly when it contains a condition: then the statement has the
filter in parentheses right behind its head, and else it is the statement without the filter.
-/
namespace ParamSql

namespace Restriction

theorem whereClause_of_text_eq_empty {condition : Statement} (empty : condition.text = "") :
    whereClause condition = .empty := by
  simp [whereClause, Statement.isEmpty, empty]

theorem whereClause_of_text_ne_empty {condition : Statement} (present : condition.text ≠ "") :
    whereClause condition = .ofText " WHERE " ++ condition := by
  simp [whereClause, Statement.isEmpty, present]

end Restriction

/-- A filter that was read and has text is one parenthesised expression. -/
theorem SearchCondition.text_statement_eq_parenthesized {spec : Value}
    {condition : SearchCondition} (success : read spec = .ok condition)
    {column : String → String} {ambient : Connective}
    (present : (condition.statement column ambient).text ≠ "") :
    ∃ inner, (condition.statement column ambient).text = "( " ++ inner ++ " )" := by
  have grouped : ∃ parts, condition = .group none parts := by
    cases spec with
    | scalar value => cases success
    | list items =>
      obtain ⟨parts, -, same⟩ := Outcome.bind_eq_ok.mp success
      cases same
      exact ⟨parts, rfl⟩
    | map fields =>
      obtain ⟨parts, -, same⟩ := Outcome.bind_eq_ok.mp success
      cases same
      exact ⟨parts, rfl⟩
  obtain ⟨parts, rfl⟩ := grouped
  rw [statement, clause] at present ⊢
  simp only [enclose] at present ⊢
  split at present
  · exact absurd rfl present
  · next some => exact ⟨_, if_neg some⟩

namespace Restrictable

/-- What stands around the filter of a statement: its head, with the scope behind it, and the text
of its modifiers. -/
def frame (compiler : Compiler) (given : Restrictable) (modifiers : Modifiers) :
    Except Error (Statement × Scope × String) := do
  let (head, scope) ← given.head compiler
  return (head, scope, ← modifiers.compile scope)

variable (compiler : Compiler) (given : Restrictable) (modifiers : Modifiers)

/-- Without a filter, the statement is its frame. -/
theorem compile_unfiltered :
    compiler.compile (given.request ⟨none, modifiers⟩) =
      (fun (head, _, tail) => head ++ .ofText tail) <$> given.frame compiler modifiers := by
  simp [compile_request, frame, Restriction.compile, Restriction.compileFilter,
    Statement.empty_append, map_eq_pure_bind, bind_assoc]

/-- With a filter that can be read, the statement has it in the middle of its frame. -/
theorem compile_filtered {spec : Value} {condition : SearchCondition}
    (success : SearchCondition.read spec = .ok condition) :
    compiler.compile (given.request ⟨some spec, modifiers⟩) =
      (fun (head, scope, tail) =>
        head ++ (Restriction.whereClause
          (condition.statement (scope.column · given.prefixed) .and) ++ .ofText tail)) <$>
        given.frame compiler modifiers := by
  simp [compile_request, frame, Restriction.compile, Restriction.compileFilter,
    SearchCondition.compile, success, map_eq_pure_bind, bind_assoc]

/-- The filtered statement has the compiled filter, which is in parentheses, right behind the head
that the statement has without any restriction. What follows is the same in both statements. -/
def ShowsFilter (spec : Value) (filtered unfiltered : Statement) : Prop :=
  ∃ head scope condition inner tail,
    given.head compiler = .ok (head, scope) ∧
    compiler.compile (given.request .none) = .ok head ∧
    SearchCondition.compile scope given.prefixed .and spec = .ok condition ∧
    condition.text = "( " ++ inner ++ " )" ∧
    filtered = head ++ .ofText " WHERE " ++ condition ++ .ofText tail ∧
    unfiltered = head ++ .ofText tail

/-- A statement that shows a filter is not the statement without it: its text is longer. -/
theorem ShowsFilter.ne {compiler : Compiler} {given : Restrictable} {spec : Value}
    {filtered unfiltered : Statement}
    (shown : given.ShowsFilter compiler spec filtered unfiltered) : filtered ≠ unfiltered := by
  obtain ⟨head, scope, condition, inner, tail, -, -, -, -, rfl, rfl⟩ := shown
  intro same
  have lengths := congrArg (·.text.length) same
  simp only [Statement.text_append, Statement.ofText, String.length_append] at lengths
  have keyword : " WHERE ".length = 7 := rfl
  omega

section

variable {compiler : Compiler} {given : Restrictable} {modifiers : Modifiers} {spec : Value}
  {condition : SearchCondition} {filtered unfiltered : Statement}

/-- Whether a statement can be compiled does not depend on a filter that can be read. -/
theorem isOk_compile_filtered (success : SearchCondition.read spec = .ok condition) :
    (compiler.compile (given.request ⟨some spec, modifiers⟩)).isOk =
      (compiler.compile (given.request ⟨none, modifiers⟩)).isOk := by
  rw [compile_filtered _ _ _ success, compile_unfiltered]
  cases given.frame compiler modifiers <;> rfl

/-- A filter without conditions changes nothing. -/
theorem filtered_eq_of_conditions_eq_nil (success : SearchCondition.read spec = .ok condition)
    (none : Filter.conditions spec = [])
    (withFilter : compiler.compile (given.request ⟨some spec, modifiers⟩) = .ok filtered)
    (without : compiler.compile (given.request ⟨.none, modifiers⟩) = .ok unfiltered) :
    filtered = unfiltered := by
  rw [compile_filtered _ _ _ success] at withFilter
  rw [compile_unfiltered] at without
  obtain ⟨⟨head, scope, tail⟩, framed, rfl⟩ := Outcome.map_eq_ok.mp withFilter
  rw [framed] at without
  cases without
  have empty := (SearchCondition.text_statement_eq_empty_iff success
    (scope.column · given.prefixed) .and).mpr none
  simp [Restriction.whereClause_of_text_eq_empty empty, Statement.empty_append]

/-- A filter with conditions is shown. -/
theorem showsFilter_of_conditions_ne_nil (success : SearchCondition.read spec = .ok condition)
    (some : Filter.conditions spec ≠ [])
    (withFilter : compiler.compile (given.request ⟨.some spec, modifiers⟩) = .ok filtered)
    (without : compiler.compile (given.request ⟨none, modifiers⟩) = .ok unfiltered) :
    given.ShowsFilter compiler spec filtered unfiltered := by
  rw [compile_filtered _ _ _ success] at withFilter
  rw [compile_unfiltered] at without
  obtain ⟨⟨head, scope, tail⟩, framed, rfl⟩ := Outcome.map_eq_ok.mp withFilter
  rw [framed] at without
  cases without
  obtain ⟨⟨_, _⟩, headed, ended⟩ := Outcome.bind_eq_ok.mp framed
  obtain ⟨_, -, same⟩ := Outcome.bind_eq_ok.mp ended
  cases same
  have present := mt (SearchCondition.text_statement_eq_empty_iff success
    (scope.column · given.prefixed) .and).mp some
  obtain ⟨inner, parenthesized⟩ :=
    SearchCondition.text_statement_eq_parenthesized success present
  refine ⟨head, scope, _, inner, tail, headed, ?_, ?_, parenthesized, ?_, rfl⟩
  · simp [compile_request, headed, Restriction.compile_none, Statement.append_empty]
  · rw [SearchCondition.compile, success]
    rfl
  · simp [Restriction.whereClause_of_text_ne_empty present, Statement.append_assoc]

end

/-- A filter that compiles has no text iff it contains no condition, and then it binds nothing. A
statement can be compiled with it iff it can be compiled without it; both times it is the same
statement iff the filter contains no condition, and otherwise it shows the filter. -/
theorem filtered_eq_unfiltered_iff {scope : Scope} {prefixed : Bool} {ambient : Connective}
    {spec : Value} {condition : Statement}
    (success : SearchCondition.compile scope prefixed ambient spec = .ok condition) :
    (condition.text = "" ↔ Filter.conditions spec = []) ∧
    (condition.text = "" → condition.params = []) ∧
    ∀ (compiler : Compiler) (given : Restrictable) (modifiers : Modifiers),
      (compiler.compile (given.request ⟨some spec, modifiers⟩)).isOk =
        (compiler.compile (given.request ⟨none, modifiers⟩)).isOk ∧
      ∀ filtered unfiltered,
        compiler.compile (given.request ⟨some spec, modifiers⟩) = .ok filtered →
        compiler.compile (given.request ⟨none, modifiers⟩) = .ok unfiltered →
        (filtered = unfiltered ↔ Filter.conditions spec = []) ∧
        (Filter.conditions spec ≠ [] → given.ShowsFilter compiler spec filtered unfiltered) := by
  obtain ⟨tree, accepted, same⟩ := Outcome.bind_eq_ok.mp success
  cases same
  refine ⟨SearchCondition.text_statement_eq_empty_iff accepted _ _,
    SearchCondition.params_of_text_eq_empty, ?_⟩
  intro compiler given modifiers
  refine ⟨isOk_compile_filtered accepted, ?_⟩
  intro filtered unfiltered withFilter without
  have shown := fun some => showsFilter_of_conditions_ne_nil accepted some withFilter without
  refine ⟨⟨?_, ?_⟩, shown⟩
  · intro equal
    by_contra some
    exact (shown some).ne equal
  · exact fun none => filtered_eq_of_conditions_eq_nil accepted none withFilter without

/-- A deletion with a filter whose only condition is in a nested group. -/
theorem filtered_eq_unfiltered_iff_nested :
    SearchCondition.compile (.start "me") false .and (.map ⟨[("-or", .list [.string "a"])]⟩) =
      .ok ⟨"( ( `a` = ? ) )", []⟩ ∧
    Compiler.standard.compile
        ((delete "t").request ⟨some (.map ⟨[("-or", .list [.string "a"])]⟩), .none⟩) =
      .ok ⟨"DELETE FROM `t` WHERE ( ( `a` = ? ) )", []⟩ ∧
    Compiler.standard.compile ((delete "t").request ⟨none, .none⟩) =
      .ok ⟨"DELETE FROM `t`", []⟩ ∧
    (delete "t").ShowsFilter .standard (.map ⟨[("-or", .list [.string "a"])]⟩)
      ⟨"DELETE FROM `t` WHERE ( ( `a` = ? ) )", []⟩ ⟨"DELETE FROM `t`", []⟩ := by
  have success : SearchCondition.compile (.start "me") false .and
      (.map ⟨[("-or", .list [.string "a"])]⟩) = .ok ⟨"( ( `a` = ? ) )", []⟩ := rfl
  have shown := (filtered_eq_unfiltered_iff success).2.2 .standard (delete "t") .none
  exact ⟨success, rfl, rfl, (shown.2 _ _ rfl rfl).2 nofun⟩

end Restrictable

end ParamSql
