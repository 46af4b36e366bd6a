import ParamSql.Proofs.Compiled
import ParamSql.Proofs.Supplied.Compiler

/-!
# The aliases of a selection

A selection declares an alias for its base table and for the target of every join in force, at any
depth: the alias that the table comes with, or else the default alias, which is also the prefix of
bare columns. So the default alias is declared once for each table without an alias of its own, and
columns are prefixed with an alias that is declared unless the base table comes with another one.
-/
namespace ParamSql

/-- A part of the text behind FROM: a table with the alias that is declared for it, the keywords in
front of the target of a join, or the place of the condition behind it. -/
inductive SourcePart where
  | declaration (table name : String)
  | keywords (kind : JoinKind)
  | on (condition : Option JoinCondition)

namespace SourcePart

def text (scope : Scope) : SourcePart → String
  | declaration table name => Name.quote table ++ " " ++ Name.quote name
  | keywords kind => " " ++ kind.keyword ++ " JOIN "
  | on condition => " " ++ (condition.map (·.text scope)).getD ""

/-- The alias that the part declares. -/
def declared? : SourcePart → Option String
  | declaration _ name => some name
  | keywords _ => none
  | on _ => none

/-- The text of parts. -/
def written (scope : Scope) (parts : List SourcePart) : String :=
  String.join (parts.map (·.text scope))

variable (scope : Scope)

theorem written_cons (part : SourcePart) (rest : List SourcePart) :
    written scope (part :: rest) = part.text scope ++ written scope rest := by
  rw [written, List.map_cons, String.join_cons, written]

theorem written_append (first second : List SourcePart) :
    written scope (first ++ second) = written scope first ++ written scope second := by
  rw [written, List.map_append, String.join_append, written, written]

end SourcePart

namespace TableRef

open SourcePart (written written_cons written_append)

mutual

/-- The parts of a table reference, in order. -/
def parts (scope : Scope) : TableRef → List SourcePart
  | .base table => [.declaration table scope.defaultAlias]
  | .aliased table name => [.declaration table name]
  | .joined table joins => .declaration table scope.defaultAlias :: partsOfJoins scope joins

/-- The parts of joins. -/
def partsOfJoins (scope : Scope) : List (Join TableRef) → List SourcePart
  | [] => []
  | ⟨target, condition⟩ :: rest =>
    partsOfTarget scope target ++ .on condition :: partsOfJoins scope rest

/-- The parts of the target of a join. -/
def partsOfTarget (scope : Scope) : Option (JoinKind × TableRef) → List SourcePart
  | none => []
  | some (kind, target) => .keywords kind :: parts scope target

end

/-- The aliases that a table reference declares, in order. -/
def aliases (scope : Scope) (ref : TableRef) : List String :=
  (ref.parts scope).filterMap (·.declared?)

mutual

/-- The targets of the joins in force, at any depth. -/
def targets : TableRef → List TableRef
  | .base _ => []
  | .aliased _ _ => []
  | .joined _ joins => targetsOfJoins joins

/-- The targets of joins and of the joins inside them. -/
def targetsOfJoins : List (Join TableRef) → List TableRef
  | [] => []
  | ⟨target, _⟩ :: rest => targetsOfTarget target ++ targetsOfJoins rest

/-- The target of a join and the targets inside it. -/
def targetsOfTarget : Option (JoinKind × TableRef) → List TableRef
  | none => []
  | some (_, target) => target :: targets target

end

/-- The alias that a table comes with. -/
def ownAlias? : TableRef → Option String
  | .base _ => none
  | .aliased _ name => some name
  | .joined _ _ => none

/-- The base table and the targets of its joins. -/
def tables (ref : TableRef) : List TableRef := ref :: ref.targets

/-- The aliases that the tables come with. -/
def ownAliases (ref : TableRef) : List String := ref.tables.filterMap (·.ownAlias?)

section

variable (scope : Scope)

mutual

/-- A table reference is written part by part. -/
theorem written_parts : ∀ ref : TableRef, written scope (ref.parts scope) = ref.text scope
  | .base table => by simp [parts, written, SourcePart.text, text]
  | .aliased table name => by simp [parts, written, SourcePart.text, text]
  | .joined table joins => by
    rw [parts, written_cons, written_partsOfJoins joins, SourcePart.text, text]

theorem written_partsOfJoins : ∀ joins : List (Join TableRef),
    written scope (partsOfJoins scope joins) = joinsText scope joins
  | [] => rfl
  | ⟨target, condition⟩ :: rest => by
    rw [partsOfJoins, written_append, written_cons, written_partsOfTarget target,
      written_partsOfJoins rest, SourcePart.text, joinsText, String.append_assoc,
      String.append_assoc, String.append_assoc]

theorem written_partsOfTarget : ∀ target : Option (JoinKind × TableRef),
    written scope (partsOfTarget scope target) = targetText scope target
  | none => rfl
  | some (kind, target) => by
    rw [partsOfTarget, written_cons, written_parts target, SourcePart.text, targetText]

end

/-- The alias under which a table is declared. -/
def declaredAlias (ref : TableRef) : String := ref.ownAlias?.getD scope.defaultAlias

mutual

/-- Every table is declared once, under its own alias or the default alias, and nothing else is. -/
theorem aliases_eq_map_tables : ∀ ref : TableRef,
    ref.aliases scope = ref.tables.map (declaredAlias scope)
  | .base _ => rfl
  | .aliased _ _ => rfl
  | .joined _ joins => congrArg (scope.defaultAlias :: ·) (aliasesOfJoins_eq_map joins)

theorem aliasesOfJoins_eq_map : ∀ joins : List (Join TableRef),
    (partsOfJoins scope joins).filterMap (·.declared?) =
      (targetsOfJoins joins).map (declaredAlias scope)
  | [] => rfl
  | ⟨target, condition⟩ :: rest => by
    rw [partsOfJoins, List.filterMap_append, aliasesOfTarget_eq_map target, targetsOfJoins,
      List.map_append, ← aliasesOfJoins_eq_map rest]
    rfl

theorem aliasesOfTarget_eq_map : ∀ target : Option (JoinKind × TableRef),
    (partsOfTarget scope target).filterMap (·.declared?) =
      (targetsOfTarget target).map (declaredAlias scope)
  | none => rfl
  | some (_, target) => aliases_eq_map_tables target

end

end

variable {scope : Scope} {ref : TableRef}

/-- The default alias is declared once for each table that comes without an alias. -/
theorem count_aliases (foreign : scope.defaultAlias ∉ ref.ownAliases) :
    (ref.aliases scope).count scope.defaultAlias = ref.tables.countP (·.ownAlias?.isNone) := by
  rw [aliases_eq_map_tables, List.count, List.countP_map]
  refine List.countP_congr fun table member => ?_
  cases own : table.ownAlias? with
  | none => simp [declaredAlias, own]
  | some name =>
    have different : name ≠ scope.defaultAlias := by
      rintro rfl
      exact foreign (List.mem_filterMap.mpr ⟨table, member, own⟩)
    simp [declaredAlias, own, different]

/-- So it is declared at most once when all targets of joins come with aliases. -/
theorem count_aliases_le_one (foreign : scope.defaultAlias ∉ ref.ownAliases)
    (aliased : ∀ target ∈ ref.targets, target.ownAlias?.isSome) :
    (ref.aliases scope).count scope.defaultAlias ≤ 1 := by
  have below : ref.targets.countP (·.ownAlias?.isNone) = 0 := by
    refine List.countP_eq_zero.mpr fun target member => ?_
    simpa [Option.isSome_iff_ne_none] using aliased target member
  rw [count_aliases foreign, tables, List.countP_cons, below]
  split <;> omega

/-- And it is declared at all exactly when the base table comes without an alias: a table with an
alias has no joins. -/
theorem defaultAlias_mem_aliases_iff (foreign : scope.defaultAlias ∉ ref.ownAliases) :
    scope.defaultAlias ∈ ref.aliases scope ↔ ref.ownAlias? = none := by
  cases ref with
  | base table => simp [aliases, parts, SourcePart.declared?, ownAlias?]
  | aliased table name =>
    have different : name ≠ scope.defaultAlias := by
      rintro rfl
      exact foreign List.mem_cons_self
    simp [aliases, parts, SourcePart.declared?, ownAlias?, different.symm]
  | joined table joins => simp [aliases, parts, SourcePart.declared?, ownAlias?]

/-- A table reference comes with an alias when it was given as a pair. -/
theorem ownAlias?_eq_some_iff {own : String} {value : Value} {ref : TableRef}
    (success : read value = .ok ref) :
    ref.ownAlias? = some own ↔ ∃ table, value = .list [.string table, .string own] := by
  obtain value | items | ⟨entries⟩ := value
  · obtain ⟨text, -, rest⟩ := Outcome.bind_eq_ok.mp success
    obtain ⟨table, -, same⟩ := Outcome.bind_eq_ok.mp rest
    cases same
    simp [ownAlias?]
  · obtain _ | ⟨entity, _ | ⟨name, _ | _⟩⟩ := items
    · cases success
    · cases success
    · simp only [read, Outcome.bind_eq_ok, Value.requireString_eq_ok_iff, Name.require_eq_ok_iff,
        Outcome.pure_eq, Except.ok.injEq] at success
      obtain ⟨table, rfl, _, ⟨-, rfl⟩, name, rfl, _, ⟨-, rfl⟩, rfl⟩ := success
      simp [ownAlias?, Value.string]
    · cases success
  · obtain _ | ⟨⟨table, given⟩, _ | _⟩ := entries
    · cases success
    · obtain ⟨name, -, rest⟩ := Outcome.bind_eq_ok.mp success
      obtain ⟨joins, -, same⟩ := Outcome.bind_eq_ok.mp rest
      cases same
      simp [ownAlias?]
    · cases success

end TableRef

namespace Compiler

/-- A selection declares the default alias once for each of its tables that comes without an alias,
and at all exactly when its table is no pair of a name and an alias. So columns are prefixed with an
alias that is declared, and declared once, when all targets of joins are pairs and the table itself
is none. -/
theorem select_declares {compiler : Compiler} {table : Value} {fields : Option Value}
    {given : Restriction} {statement : Statement}
    (success : compiler.compile (.select table fields given) = .ok statement) :
    ∃ ref columns scope tail,
      TableRef.read table = .ok ref ∧
      compiler.selected fields = (.ok columns, scope) ∧
      given.compile scope true = .ok tail ∧
      scope.defaultAlias = compiler.defaultAlias ∧
      statement = .ofText ("SELECT " ++ columns ++ " FROM " ++
        SourcePart.written compiler.scope (ref.parts compiler.scope)) ++ tail ∧
      (compiler.defaultAlias ∉ ref.ownAliases →
        (ref.aliases compiler.scope).count compiler.defaultAlias =
          ref.tables.countP (·.ownAlias?.isNone) ∧
        ((∀ target ∈ ref.targets, target.ownAlias?.isSome) →
          (ref.aliases compiler.scope).count compiler.defaultAlias ≤ 1) ∧
        (compiler.defaultAlias ∈ ref.aliases compiler.scope ↔
          ¬ ∃ name own, table = .list [.string name, .string own])) := by
  obtain ⟨⟨head, scope⟩, headed, ended⟩ := Outcome.bind_eq_ok.mp success
  obtain ⟨tail, restricted, same⟩ := Outcome.bind_eq_ok.mp ended
  cases same
  obtain ⟨source, compiled, rest⟩ := Outcome.bind_eq_ok.mp headed
  obtain ⟨columns, chosen, same⟩ := Outcome.bind_eq_ok.mp rest
  cases same
  obtain ⟨ref, read, same⟩ := Outcome.bind_eq_ok.mp compiled
  cases same
  refine ⟨ref, columns, _, tail, read, Prod.ext chosen rfl, restricted, defaultAlias_selected, ?_,
    fun foreign => ?_⟩
  · rw [TableRef.written_parts]
  · have foreign : compiler.scope.defaultAlias ∉ ref.ownAliases := foreign
    refine ⟨TableRef.count_aliases foreign, TableRef.count_aliases_le_one foreign, ?_⟩
    refine (TableRef.defaultAlias_mem_aliases_iff foreign).trans ?_
    rw [Option.eq_none_iff_forall_ne_some]
    simp only [ne_eq, TableRef.ownAlias?_eq_some_iff read, not_exists]
    exact forall_comm

/-- A table with two joins: one with a pair, and one with a table that has a join itself. -/
def nestedSource : Value :=
  .map ⟨[("user", .list [
    .map ⟨[("-inner", .list [.string "item", .string "i"]),
      ("-on", .list [.string "id", .string "i.user_id"])]⟩,
    .map ⟨[("-left", .map ⟨[("group", .map ⟨[("-inner", .string "role")]⟩)]⟩)]⟩])]⟩

/-- What it is read to. -/
def nestedRef : TableRef :=
  .joined "user" [
    ⟨some (.inner, .aliased "item" "i"), some ⟨"id", "i.user_id"⟩⟩,
    ⟨some (.left, .joined "group" [⟨some (.inner, .base "role"), none⟩]), none⟩]

theorem select_declares_nestedSource :
    TableRef.read nestedSource = .ok nestedRef ∧ "me" ∉ nestedRef.ownAliases ∧
      nestedRef.aliases standard.scope = ["me", "i", "me", "me"] ∧
      (nestedRef.aliases standard.scope).count "me" =
        nestedRef.tables.countP (·.ownAlias?.isNone) ∧
      "me" ∈ nestedRef.aliases standard.scope := by
  have success : standard.compile (.select nestedSource none .none) = .ok (.ofText
      ("SELECT * FROM `user` `me` INNER JOIN `item` `i` ON `me`.`id` = i.user_id" ++
        " LEFT JOIN `group` `me` INNER JOIN `role` `me`  ")) := rfl
  have described : TableRef.read nestedSource = .ok nestedRef := rfl
  have foreign : "me" ∉ nestedRef.ownAliases := by decide
  obtain ⟨ref, columns, scope, tail, read, -, -, -, -, declares⟩ := select_declares success
  obtain rfl : ref = nestedRef := Except.ok.inj (read.symm.trans described)
  obtain ⟨count, -, declared⟩ := declares foreign
  exact ⟨described, foreign, rfl, count, declared.mpr (by simp [nestedSource])⟩

/-- A table with an alias of its own. -/
def pairSource : Value := .list [.string "user", .string "u"]

/-- A table that is joined to another one, both without aliases of their own. -/
def joinedSource : Value :=
  .map ⟨[("user", .map ⟨[("-inner", .string "item"),
    ("-on", .list [.string "id", .string "item.user_id"])]⟩)]⟩

/-- The prefix of bare columns need not be declared, and it can be declared twice: a table with an
alias of its own is not declared under it, and the target of a join is when it is no pair. -/
theorem defaultAlias_undeclared_and_redeclared :
    (standard.compile (.select pairSource (some (.string "id")) .none) =
        .ok (.ofText "SELECT `me`.`id` FROM `user` `u`") ∧
      ∃ ref, TableRef.read pairSource = .ok ref ∧ "me" ∉ ref.ownAliases ∧
        "me" ∉ ref.aliases standard.scope) ∧
    (standard.compile (.select joinedSource none .none) = .ok (.ofText
        "SELECT * FROM `user` `me` INNER JOIN `item` `me` ON `me`.`id` = item.user_id") ∧
      ∃ ref, TableRef.read joinedSource = .ok ref ∧ "me" ∉ ref.ownAliases ∧
        (ref.aliases standard.scope).count "me" = 2) :=
  ⟨⟨rfl, _, rfl, by decide, by decide⟩, rfl, _, rfl, by decide, rfl⟩

end Compiler

end ParamSql
