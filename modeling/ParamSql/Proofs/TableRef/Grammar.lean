import ParamSql.Proofs.Recasing.Basic
import ParamSql.Proofs.TableRef.Induction
import ParamSql.TableRef.Render

/-!
# The grammar of table references

Which descriptions are tables, said of the descriptions alone: a name, a name with an alias, or a
name with joins, where a join is a map of targets, which are tables again, and conditions. Exactly
these compile, in every scope. The text of a table with joins is put together from the texts of its
parts: the table, the joins in order, and in each join the table of its target.
-/
namespace ParamSql

/-- The kind of join that a key introduces. -/
def JoinKind.find? (key : String) : Option JoinKind :=
  match Directive.find? key with
  | some .inner => some .inner
  | some .left => some .left
  | _ => none

namespace TableRef

open Outcome

mutual

/-- A table: a name, a name with its alias, or a name with joins. -/
inductive IsTable : Value → Prop
  | base {table : String} (present : table ≠ "") : IsTable (.string table)
  | aliased {table name : String} (tablePresent : table ≠ "") (namePresent : name ≠ "") :
      IsTable (.list [.string table, .string name])
  | joined {table : String} {joins : Value} (present : table ≠ "") (inside : IsJoins joins) :
      IsTable (.map ⟨[(table, joins)]⟩)

/-- One join or a list of joins, which can be empty. -/
inductive IsJoins : Value → Prop
  | one {join : Value} (inside : IsJoin join) : IsJoins join
  | list {items : List Value} (each : ∀ item ∈ items, IsJoin item) : IsJoins (.list items)

/-- A join: a map of targets and conditions, any number of each. -/
inductive IsJoin : Value → Prop
  | map {entries : List (String × Value)} (each : ∀ entry ∈ entries, IsJoinEntry entry.1 entry.2) :
      IsJoin (.map ⟨entries⟩)

/-- An entry of a join: a table below a kind of join, or a condition. -/
inductive IsJoinEntry : String → Value → Prop
  | target {key : String} {value : Value} (kind : JoinKind) (spelled : kind.directive.SpelledBy key)
      (inside : IsTable value) : IsJoinEntry key value
  | condition {key column expression : String} (spelled : Directive.on.SpelledBy key)
      (present : column ≠ "") : IsJoinEntry key (.list [.string column, .string expression])

end

/-- Reading keeps to the grammar. -/
theorem keptByReading_isTable : KeptByReading (fun spec _ => IsTable spec)
    (fun spec _ => IsJoins spec) (fun items _ => ∀ item ∈ items, IsJoin item)
    (fun _ entries _ => ∀ entry ∈ entries, IsJoinEntry entry.1 entry.2) where
  base := .base
  aliased := .aliased
  joined := .joined
  one := fun each => .one (.map each)
  list := .list
  noItem := nofun
  item := fun each later => List.forall_mem_cons.mpr ⟨.map each, later⟩
  noEntry := fun _ => nofun
  target := fun kind _ _ _ _ _ _ _ known inside later => by
    have spelled := Directive.read_eq_some_iff_spelledBy.mp known
    exact List.forall_mem_cons.mpr ⟨.target kind spelled inside, later⟩
  condition := fun known present later => by
    have spelled := Directive.read_eq_some_iff_spelledBy.mp known
    exact List.forall_mem_cons.mpr ⟨.condition spelled present, later⟩

/-- Joins that can be read one by one can be read as a list. -/
theorem exists_readJoinItems {items : List Value}
    (each : ∀ item ∈ items, ∃ entries join, item = .map ⟨entries⟩ ∧
      readJoin .empty entries = .ok join) :
    ∃ joins, readJoinItems items = .ok joins := by
  induction items with
  | nil => exact ⟨[], rfl⟩
  | cons item rest ih =>
    obtain ⟨⟨entries, join, rfl, here⟩, there⟩ := List.forall_mem_cons.mp each
    obtain ⟨joins, later⟩ := ih there
    exact ⟨join :: joins, by simp [readJoinItems, here, later]⟩

/-- Entries each of which can be read before any others can be read as a join. -/
theorem exists_readJoin {entries : List (String × Value)}
    (each : ∀ entry ∈ entries, ∀ before rest, ∃ next, ∀ final,
      readJoin next rest = .ok final → readJoin before (entry :: rest) = .ok final)
    (before : Join TableRef) : ∃ final, readJoin before entries = .ok final := by
  induction entries generalizing before with
  | nil => exact ⟨before, rfl⟩
  | cons entry rest ih =>
    obtain ⟨here, there⟩ := List.forall_mem_cons.mp each
    obtain ⟨next, step⟩ := here before rest
    obtain ⟨final, later⟩ := ih there next
    exact ⟨final, step final later⟩

mutual

/-- What is in the grammar is read. -/
theorem exists_read_of_isTable : ∀ {spec : Value}, IsTable spec →
    ∃ reference, read spec = .ok reference
  | _, @IsTable.base table present => by
    have required : Name.require .table table = .ok table := Name.require_of_ne present
    exact ⟨.base table, by simp [Value.string, read, Value.requireString, required]⟩
  | _, @IsTable.aliased table name tablePresent namePresent => by
    have requiredTable : Name.require .table table = .ok table := Name.require_of_ne tablePresent
    have requiredName : Name.require .tableAlias name = .ok name := Name.require_of_ne namePresent
    exact ⟨.aliased table name,
      by simp [Value.string, read, Value.requireString, requiredTable, requiredName]⟩
  | _, @IsTable.joined table _ present inside => by
    have required : Name.require .table table = .ok table := Name.require_of_ne present
    obtain ⟨joins, success⟩ := exists_readJoins_of_isJoins inside
    exact ⟨.joined table joins, by simp [read, required, success]⟩

theorem exists_readJoins_of_isJoins : ∀ {spec : Value}, IsJoins spec →
    ∃ joins, readJoins spec = .ok joins
  | _, .one inside => by
    obtain ⟨entries, join, rfl, success⟩ := exists_readJoin_of_isJoin inside
    exact ⟨[join], by simp [readJoins, success]⟩
  | _, .list each =>
    exists_readJoinItems fun item member => exists_readJoin_of_isJoin (each item member)

theorem exists_readJoin_of_isJoin : ∀ {item : Value}, IsJoin item →
    ∃ entries join, item = .map ⟨entries⟩ ∧ readJoin .empty entries = .ok join
  | _, @IsJoin.map entries each => by
    obtain ⟨join, success⟩ := exists_readJoin
      (fun entry member => readJoin_of_isJoinEntry (each entry member)) .empty
    exact ⟨entries, join, rfl, success⟩

theorem readJoin_of_isJoinEntry : ∀ {key : String} {value : Value}, IsJoinEntry key value →
    ∀ before rest, ∃ next, ∀ final,
      readJoin next rest = .ok final → readJoin before ((key, value) :: rest) = .ok final
  | _, _, .target kind spelled inside => by
    intro before rest
    have known := Directive.read_eq_some_iff_spelledBy.mpr spelled
    obtain ⟨reference, success⟩ := exists_read_of_isTable inside
    refine ⟨⟨some (kind, reference), before.condition⟩, fun final later => ?_⟩
    exact readJoin_cons_eq_ok_iff.mpr (.inl ⟨kind, reference, known, success, later⟩)
  | _, _, @IsJoinEntry.condition _ column expression spelled present => by
    intro before rest
    have known := Directive.read_eq_some_iff_spelledBy.mpr spelled
    have success : JoinCondition.read (.list [.string column, .string expression]) =
        .ok ⟨column, expression⟩ := JoinCondition.read_eq_ok_iff.mpr ⟨rfl, present⟩
    refine ⟨⟨before.target, some ⟨column, expression⟩⟩, fun final later => ?_⟩
    exact readJoin_cons_eq_ok_iff.mpr (.inr ⟨⟨column, expression⟩, known, success, later⟩)

end

/-- A table can be read exactly when it is in the grammar. -/
theorem exists_read_iff_isTable {spec : Value} :
    (∃ reference, read spec = .ok reference) ↔ IsTable spec :=
  ⟨fun ⟨_, success⟩ => keptByReading_isTable.of_read success, exists_read_of_isTable⟩

/-- Joins can be read exactly when they are in the grammar. -/
theorem exists_readJoins_iff_isJoins {spec : Value} :
    (∃ joins, readJoins spec = .ok joins) ↔ IsJoins spec :=
  ⟨fun ⟨_, success⟩ => keptByReading_isTable.of_readJoins success, exists_readJoins_of_isJoins⟩

/-! ### The text of joins -/

theorem compile_eq_map (scope : Scope) (spec : Value) :
    compile scope spec = text scope <$> read spec := rfl

theorem compileJoins_eq_map (scope : Scope) (spec : Value) :
    compileJoins scope spec = joinsText scope <$> readJoins spec := rfl

/-- The targets in a join map with their kinds, in order. -/
def targetEntries (entries : List (String × Value)) : List (JoinKind × Value) :=
  entries.filterMap fun (key, value) => (JoinKind.find? key).map (·, value)

/-- The conditions in a join map, in order. -/
def conditionEntries (entries : List (String × Value)) : List Value :=
  entries.filterMap fun (key, value) => if Directive.find? key = some .on then some value else none

/-- The text of the target of a join, with the text of its table in place. -/
def compileTarget (scope : Scope) : Option (JoinKind × Value) → Except Error String
  | none => .ok ""
  | some (kind, value) => do return " " ++ kind.keyword ++ " JOIN " ++ (← compile scope value)

/-- The text of the condition of a join. -/
def compileCondition (scope : Scope) : Option Value → Except Error String
  | none => .ok ""
  | some value => do return (← JoinCondition.read value).text scope

theorem find?_of_target {key : String} {kind : JoinKind}
    (known : Directive.read key = .ok (some kind.directive)) :
    JoinKind.find? key = some kind ∧ Directive.find? key ≠ some .on := by
  have found := (Directive.read_eq_some_iff.mp known).2
  rw [JoinKind.find?, found]
  cases kind <;> decide

theorem find?_of_condition {key : String} (known : Directive.read key = .ok (some .on)) :
    JoinKind.find? key = none ∧ Directive.find? key = some .on := by
  have found := (Directive.read_eq_some_iff.mp known).2
  rw [JoinKind.find?, found]
  exact ⟨rfl, rfl⟩

/-- What is given as a target is read as this one. -/
def ReadsTarget (given : JoinKind × Value) (found : JoinKind × TableRef) : Prop :=
  given.1 = found.1 ∧ read given.2 = .ok found.2

/-- What is given as a condition is read as this one. -/
def ReadsCondition (given : Value) (found : JoinCondition) : Prop :=
  JoinCondition.read given = .ok found

/-- The first of some items counts only if it is the last one, too. -/
theorem rel_getLast?_cons {α β : Type} {reads : α → β → Prop} {given : List α} {found : Option β}
    {first : α} {result : β} (later : Option.Rel reads given.getLast? found)
    (here : reads first result) :
    Option.Rel reads (first :: given).getLast? (found.or (some result)) := by
  rw [List.getLast?_cons]
  generalize given.getLast? = last at later
  cases later with
  | none => exact .some here
  | some there => exact .some there

/-- A join has the target and the condition that stand last in its map. -/
theorem last_of_readJoin {entries : List (String × Value)} {before final : Join TableRef}
    (success : readJoin before entries = .ok final) :
    ∃ target condition,
      Option.Rel ReadsTarget (targetEntries entries).getLast? target ∧
      Option.Rel ReadsCondition (conditionEntries entries).getLast? condition ∧
      final = ⟨target.or before.target, condition.or before.condition⟩ := by
  induction entries generalizing before with
  | nil =>
    cases success
    exact ⟨none, none, .none, .none, rfl⟩
  | cons entry rest ih =>
    obtain ⟨key, value⟩ := entry
    obtain ⟨kind, reference, known, inside, later⟩ | ⟨found, known, inside, later⟩ :=
      readJoin_cons_eq_ok_iff.mp success
    · obtain ⟨target, condition, lastTarget, lastCondition, rfl⟩ := ih later
      obtain ⟨isTarget, notCondition⟩ := find?_of_target known
      have here : targetEntries ((key, value) :: rest) = (kind, value) :: targetEntries rest := by
        simp [targetEntries, isTarget]
      have there : conditionEntries ((key, value) :: rest) = conditionEntries rest := by
        simp [conditionEntries, notCondition]
      refine ⟨target.or (some (kind, reference)), condition, ?_, ?_, ?_⟩
      · rw [here]
        exact rel_getLast?_cons lastTarget ⟨rfl, inside⟩
      · rwa [there]
      · cases target <;> rfl
    · obtain ⟨target, condition, lastTarget, lastCondition, rfl⟩ := ih later
      obtain ⟨notTarget, isCondition⟩ := find?_of_condition known
      have here : conditionEntries ((key, value) :: rest) = value :: conditionEntries rest := by
        simp [conditionEntries, isCondition]
      have there : targetEntries ((key, value) :: rest) = targetEntries rest := by
        simp [targetEntries, notTarget]
      refine ⟨target, condition.or (some found), ?_, ?_, ?_⟩
      · rwa [there]
      · rw [here]
        exact rel_getLast?_cons lastCondition inside
      · cases condition <;> rfl

theorem compileTarget_of_rel (scope : Scope) {given : Option (JoinKind × Value)}
    {found : Option (JoinKind × TableRef)} (reads : Option.Rel ReadsTarget given found) :
    compileTarget scope given = .ok (targetText scope found) := by
  cases reads with
  | none => rfl
  | some here =>
    obtain ⟨same, success⟩ := here
    simp [compileTarget, compile, success, same, targetText]

theorem compileCondition_of_rel (scope : Scope) {given : Option Value}
    {found : Option JoinCondition} (reads : Option.Rel ReadsCondition given found) :
    compileCondition scope given = .ok ((found.map (·.text scope)).getD "") := by
  cases reads with
  | none => rfl
  | some here =>
    have success : JoinCondition.read _ = .ok _ := here
    simp [compileCondition, success]

/-- A single join is the text of its last target, a blank, and the text of its last condition. -/
theorem compileJoins_map {scope : Scope} {entries : List (String × Value)} {text : String}
    (success : compileJoins scope (.map ⟨entries⟩) = .ok text) :
    ∃ target condition, compileTarget scope (targetEntries entries).getLast? = .ok target ∧
      compileCondition scope (conditionEntries entries).getLast? = .ok condition ∧
      text = target ++ " " ++ condition := by
  simp only [compileJoins, readJoins, Outcome.bind_eq_ok, Outcome.pure_eq,
    Except.ok.injEq] at success
  obtain ⟨_, ⟨join, inside, rfl⟩, rfl⟩ := success
  obtain ⟨target, condition, lastTarget, lastCondition, rfl⟩ := last_of_readJoin inside
  refine ⟨_, _, compileTarget_of_rel scope lastTarget, compileCondition_of_rel scope lastCondition,
    ?_⟩
  simp [Join.empty, joinsText]

theorem joinsText_cons (scope : Scope) (join : Join TableRef) (rest : List (Join TableRef)) :
    joinsText scope (join :: rest) = joinsText scope [join] ++ joinsText scope rest := by
  simp [joinsText]

/-- A list of joins is the text of its items, in order. -/
theorem compileJoins_list (scope : Scope) (maps : List (KeyedMap Value)) :
    compileJoins scope (.list (maps.map .map)) =
      String.join <$> maps.mapM fun fields => compileJoins scope (.map fields) := by
  rw [compileJoins_eq_map, readJoins]
  induction maps with
  | nil => rfl
  | cons fields rest ih =>
    obtain ⟨entries⟩ := fields
    have first : compileJoins scope (.map ⟨entries⟩) =
        (fun join => joinsText scope [join]) <$> readJoin .empty entries := by
      rw [compileJoins_eq_map, readJoins]
      cases readJoin .empty entries <;> rfl
    rw [Outcome.join_mapM_cons, ← ih, first, List.map_cons, readJoinItems]
    cases readJoin .empty entries with
    | error => rfl
    | ok join =>
      cases readJoinItems (rest.map .map) with
      | error => rfl
      | ok joins => simp [joinsText_cons scope join joins]

/-- A table with joins is the text of the table and then the text of the joins. -/
theorem compile_joined (scope : Scope) (table : String) (joins : Value) :
    compile scope (.map ⟨[(table, joins)]⟩) = (do
      return (← compile scope (.string table)) ++ (← compileJoins scope joins)) := by
  simp only [compile, compileJoins, read, Value.string, Value.requireString, Outcome.ok_bind]
  cases Name.require .table table with
  | error => rfl
  | ok table =>
    cases readJoins joins with
    | error => rfl
    | ok joins => simp [text]

/-- A table compiles exactly when it is in the grammar, and so do joins, whatever the scope; the
scope has no influence on the fault either. The text of a table with joins is that of the table,
followed by those of the joins in their order; the text of a join is that of its last target, in
which the table stands in place, and of its last condition. -/
theorem exists_compile_iff_isTable :
    (∀ scope spec, ((∃ text, compile scope spec = .ok text) ↔ IsTable spec) ∧
      ((∃ text, compileJoins scope spec = .ok text) ↔ IsJoins spec)) ∧
    (∀ scope other spec, fault? (compile scope spec) = fault? (compile other spec)) ∧
    (∀ scope table joins, compile scope (.map ⟨[(table, joins)]⟩) = (do
      return (← compile scope (.string table)) ++ (← compileJoins scope joins))) ∧
    (∀ scope (maps : List (KeyedMap Value)), compileJoins scope (.list (maps.map .map)) =
      String.join <$> maps.mapM fun fields => compileJoins scope (.map fields)) ∧
    ∀ scope entries text, compileJoins scope (.map ⟨entries⟩) = .ok text →
      ∃ target condition, compileTarget scope (targetEntries entries).getLast? = .ok target ∧
        compileCondition scope (conditionEntries entries).getLast? = .ok condition ∧
        text = target ++ " " ++ condition := by
  refine ⟨fun scope spec => ⟨?_, ?_⟩, ?_, compile_joined, compileJoins_list,
    fun _ _ _ => compileJoins_map⟩
  · rw [compile_eq_map, Outcome.exists_map_eq_ok_iff, exists_read_iff_isTable]
  · rw [compileJoins_eq_map, Outcome.exists_map_eq_ok_iff, exists_readJoins_iff_isJoins]
  · intro scope other spec
    rw [compile, compile, fault?_then, fault?_then]

/-- A join with a table that has a join of its own. -/
def nestedJoin : KeyedMap Value :=
  ⟨[("-Inner", .map ⟨[("item", .list [.map ⟨[("-on", .list [.string "tag_id", .string "t.id"]),
      ("-left", .list [.string "tag", .string "t"])]⟩])]⟩),
    ("-on", .list [.string "id", .string "item.user_id"])]⟩

theorem exists_compile_iff_isTable_nestedJoin :
    IsTable (.map ⟨[("user", .map nestedJoin)]⟩) ∧
      ∃ target condition,
        compileTarget (.start "me") (targetEntries nestedJoin.entries).getLast? = .ok target ∧
        compileCondition (.start "me") (conditionEntries nestedJoin.entries).getLast? =
          .ok condition ∧
        target ++ " " ++ condition = " INNER JOIN `item` `me` LEFT JOIN `tag` `t`" ++
          " ON `me`.`tag_id` = t.id ON `me`.`id` = item.user_id" := by
  obtain ⟨accepts, -, -, -, assembled⟩ := exists_compile_iff_isTable
  refine ⟨(accepts (.start "me") _).1.mp ⟨_, rfl⟩, ?_⟩
  obtain ⟨target, condition, here, there, same⟩ := assembled (.start "me") nestedJoin.entries _ rfl
  exact ⟨target, condition, here, there, same ▸ by decide⟩

end TableRef

end ParamSql
