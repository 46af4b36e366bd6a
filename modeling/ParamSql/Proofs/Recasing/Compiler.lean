import ParamSql.Modifiers.Columns
import ParamSql.Proofs.Recasing.Filter
import ParamSql.Proofs.Recasing.Projection
import ParamSql.Proofs.Recasing.TableRef

/-!
# Directives in every case

In filters, in the clauses that list columns, in projections, in table references and in joins, a
directive means the same in letters of every case.
-/
namespace ParamSql

open Outcome Value

namespace ColumnClause

mutual

/-- A recased clause lists the same columns. -/
theorem alike_read (clause : ColumnClause) : ∀ {spec other : Value}, Recased spec other →
    Alike Eq (clause.read spec) (clause.read other)
  | _, _, .scalar value => .refl _
  | _, _, .list inside => alike_readItems clause inside
  | _, _, .map inside => by
    cases clause with
    | groupBy => exact .refl _
    | orderBy => exact alike_readDirected .orderBy inside

theorem alike_readItems (clause : ColumnClause) : ∀ {items others : List Value},
    RecasedItems items others → Alike Eq (clause.readItems items) (clause.readItems others)
  | _, _, .nil => .refl _
  | _, _, .cons first later => by
    refine (alike_read clause first).bind fun columns _ same => ?_
    cases same
    exact (alike_readItems clause later).bind_eq _

theorem alike_readDirected (clause : ColumnClause) : ∀ {entries others : List (String × Value)},
    RecasedEntries entries others →
      Alike Eq (clause.readDirected entries) (clause.readDirected others)
  | _, _, .nil => .refl _
  | _, _, @RecasedEntries.cons key respelled value changed _ _ spelled first .nil => by
    have direction : Alike Eq (Direction.read key) (Direction.read respelled) := by
      rw [Direction.read, Direction.read, spelled.read_eq]
      cases known : Directive.read key with
      | error fault => exact .refl _
      | ok directive =>
        cases directive with
        | none =>
          obtain rfl := spelled.eq_of_name known
          exact .refl _
        | some directive => cases directive <;> exact .refl _
    rw [readDirected, readDirected]
    refine direction.bind fun direction _ same => ?_
    cases same
    exact (alike_read clause first).bind_eq _
  | _, _, .cons _ _ (.cons _ _ _) => .error rfl

end

theorem alike_compile (clause : ColumnClause) (scope : Scope) {spec other : Value}
    (recased : Recased spec other) :
    Alike Eq (clause.compile scope spec) (clause.compile scope other) :=
  (alike_read clause recased).bind_eq _

end ColumnClause

/-- Recasing directives changes no outcome: what compiles compiles to the same text and parameters,
and declares the same aliases, and what is rejected is rejected under the same category. Names of
tables with joins are no directives. -/
theorem Scope.compile_recased (scope : Scope) :
    (∀ {spec other : Value}, spec.Recased other →
      (∀ prefixed ambient, Alike Eq (SearchCondition.compile scope prefixed ambient spec)
        (SearchCondition.compile scope prefixed ambient other)) ∧
      (∀ clause : ColumnClause, Alike Eq (clause.compile scope spec) (clause.compile scope other)) ∧
      Alike Eq (Projection.compile scope spec).1 (Projection.compile scope other).1 ∧
      (Projection.compile scope other).2 = (Projection.compile scope spec).2) ∧
    (∀ {spec other : Value}, TableRef.Recased spec other →
      Alike Eq (TableRef.compile scope spec) (TableRef.compile scope other)) ∧
    ∀ {spec other : Value}, TableRef.RecasedJoins spec other →
      Alike Eq (TableRef.compileJoins scope spec) (TableRef.compileJoins scope other) := by
  refine ⟨?_, ?_, ?_⟩
  · intro spec other recased
    refine ⟨fun prefixed ambient => ?_, fun clause => ?_, ?_⟩
    · exact SearchCondition.alike_compile scope prefixed ambient recased
    · exact ColumnClause.alike_compile clause scope recased
    · exact Projection.alike_compile scope recased
  · intro spec other recased
    exact (TableRef.alike_read recased).bind_eq _
  · intro spec other recased
    exact (TableRef.alike_readJoins recased).bind_eq _

section

open Directive (Recased)

theorem Scope.compile_recased_mixed :
    let scope := Scope.start "me"
    SearchCondition.compile scope true .and
        (.map ⟨[("-Or", .list [.string "a",
          .map ⟨[("b", .map ⟨[("-IN", .list [.integer 1])]⟩)]⟩])]⟩) =
      .ok ⟨"( ( `me`.`a` = ? OR ( `me`.`b` IN ( ? ) ) ) )", [.integer 1]⟩ ∧
    Projection.compile scope (.map ⟨[("count", .map ⟨[("-As", .string "n")]⟩)]⟩) =
      (.ok "`me`.`count` AS `n`", ⟨"me", ["`n`"]⟩) ∧
    TableRef.compile scope (.map ⟨[("-on", .map ⟨[("-LEFT", .string "p"),
        ("-ON", .list [.string "id", .string "p.id"])]⟩)]⟩) =
      .ok "`-on` `me` LEFT JOIN `p` `me` ON `me`.`id` = p.id" := by
  intro scope
  obtain ⟨general, tables, -⟩ := Scope.compile_recased scope
  have or : Recased "-or" "-Or" := @Recased.of_key .or _ (by decide)
  have «in» : Recased "-in" "-IN" := @Recased.of_key .in _ (by decide)
  have as : Recased "-as" "-As" := @Recased.of_key .as _ (by decide)
  have left : Recased "-left" "-LEFT" := @Recased.of_key .left _ (by decide)
  have on : Recased "-on" "-ON" := @Recased.of_key .on _ (by decide)
  refine ⟨?_, ?_, ?_⟩
  · have filter := Value.Recased.map <| .cons or (.list <| .cons (.scalar (.string "a")) <|
      .cons (.map <| .cons (.refl "b") (.map <| .cons «in»
        (.list <| .cons (.scalar (.integer 1)) .nil) .nil) .nil) .nil) .nil
    have written : SearchCondition.compile scope true .and
        (.map ⟨[("-or", .list [.string "a", .map ⟨[("b", .map ⟨[("-in",
          .list [.integer 1])]⟩)]⟩])]⟩) =
        .ok ⟨"( ( `me`.`a` = ? OR ( `me`.`b` IN ( ? ) ) ) )", [.integer 1]⟩ := by rfl
    exact ((general filter).1 true .and).eq_ok written
  · have item := Value.Recased.map <| .cons (.refl "count")
      (.map <| .cons as (.scalar (.string "n")) .nil) .nil
    obtain ⟨-, -, outcome, declared⟩ := general item
    exact Prod.ext (outcome.eq_ok rfl) declared
  · have target : TableRef.Recased (.string "p") (.string "p") := .plain nofun (.scalar _)
    have condition := Value.Recased.list <| .cons (.scalar (.string "id")) <|
      .cons (.scalar (.string "p.id")) .nil
    have known : Directive.read "-left" = .ok (some JoinKind.left.directive) :=
      Directive.read_key .left
    have noTarget (kind : JoinKind) : Directive.read "-on" ≠ .ok (some kind.directive) := by
      have known : Directive.read "-on" = .ok (some .on) := Directive.read_key .on
      rw [known]
      cases kind <;> decide
    have joined := @TableRef.Recased.withJoins "-on" _ _ <| .map <|
      .target known left target <| .entry noTarget on condition .nil
    exact (tables joined).eq_ok rfl

end

end ParamSql
