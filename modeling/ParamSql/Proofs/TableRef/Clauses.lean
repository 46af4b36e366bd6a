import ParamSql.Proofs.TableRef.Grammar

/-!
# Complete joins

A join map may lack its target or its condition, and it may have several of each: none of this is a
fault. The clause of a join has the last target and the last condition of its map, as far as there
are any. So it is complete, and shows all of its map, exactly when the map has one of each.
-/
namespace ParamSql.TableRef

open Outcome

/-- The join maps in a description of joins: the map itself, or the items of the list. -/
def joinMaps : Value → List (KeyedMap Value)
  | .scalar _ => []
  | .list items => items.filterMap fun
    | .map fields => some fields
    | _ => none
  | .map fields => [fields]

/-- The map has exactly one target and exactly one condition. -/
def IsPair (fields : KeyedMap Value) : Prop :=
  (targetEntries fields.entries).length = 1 ∧ (conditionEntries fields.entries).length = 1

instance (fields : KeyedMap Value) : Decidable (IsPair fields) :=
  inferInstanceAs (Decidable (_ ∧ _))

/-- The entries are a target and a condition, in this order or the other one. -/
def ArePair (entries : List (String × Value)) (kind : JoinKind) (target : Value)
    (condition : JoinCondition) : Prop :=
  ∃ targetKey conditionKey, kind.directive.SpelledBy targetKey ∧
    Directive.on.SpelledBy conditionKey ∧
    entries.Perm [(targetKey, target),
      (conditionKey, .list [.string condition.column, .string condition.expression])]

/-- The clause shows a whole join map, with nothing missing in it and nothing left out: the map is a
target and a condition, and the clause is the kind of join, the table of the target and the equation
of the condition. -/
def ShowsWhole (scope : Scope) (fields : KeyedMap Value) (clause : String) : Prop :=
  ∃ kind target condition table, ArePair fields.entries kind target condition ∧
    compile scope target = .ok table ∧
    clause = " " ++ kind.keyword ++ " JOIN " ++ table ++ " ON " ++
      scope.column condition.column true ++ " = " ++ condition.expression

section

variable {key : String} {entries : List (String × Value)}

theorem entries_cons_target {kind : JoinKind} (spelled : kind.directive.SpelledBy key)
    (value : Value) (rest : List (String × Value)) :
    targetEntries ((key, value) :: rest) = (kind, value) :: targetEntries rest ∧
      conditionEntries ((key, value) :: rest) = conditionEntries rest := by
  obtain ⟨isTarget, notCondition⟩ :=
    find?_of_target (Directive.read_eq_some_iff_spelledBy.mpr spelled)
  simp [targetEntries, conditionEntries, isTarget, notCondition]

theorem entries_cons_condition (spelled : Directive.on.SpelledBy key) (value : Value)
    (rest : List (String × Value)) :
    targetEntries ((key, value) :: rest) = targetEntries rest ∧
      conditionEntries ((key, value) :: rest) = value :: conditionEntries rest := by
  obtain ⟨notTarget, isCondition⟩ :=
    find?_of_condition (Directive.read_eq_some_iff_spelledBy.mpr spelled)
  simp [targetEntries, conditionEntries, notTarget, isCondition]

/-- Every entry of a join is a target or a condition. -/
theorem length_entries (each : ∀ entry ∈ entries, IsJoinEntry entry.1 entry.2) :
    entries.length = (targetEntries entries).length + (conditionEntries entries).length := by
  induction entries with
  | nil => rfl
  | cons entry rest ih =>
    obtain ⟨here, there⟩ := List.forall_mem_cons.mp each
    have later := ih there
    obtain ⟨key, value⟩ := entry
    cases here with
    | target kind spelled _ =>
      obtain ⟨targets, conditions⟩ := entries_cons_target spelled value rest
      rw [targets, conditions, List.length_cons, List.length_cons]
      omega
    | @condition _ column expression spelled _ =>
      obtain ⟨targets, conditions⟩ := entries_cons_condition spelled
        (.list [.string column, .string expression]) rest
      rw [targets, conditions, List.length_cons, List.length_cons]
      omega

theorem perm_targetEntries {others : List (String × Value)} (same : entries.Perm others) :
    (targetEntries entries).Perm (targetEntries others) :=
  same.filterMap _

theorem perm_conditionEntries {others : List (String × Value)} (same : entries.Perm others) :
    (conditionEntries entries).Perm (conditionEntries others) :=
  same.filterMap _

theorem ArePair.entries_eq {kind : JoinKind} {target : Value} {condition : JoinCondition}
    (pair : ArePair entries kind target condition) :
    targetEntries entries = [(kind, target)] ∧
      conditionEntries entries =
        [.list [.string condition.column, .string condition.expression]] := by
  obtain ⟨targetKey, conditionKey, isTarget, isCondition, same⟩ := pair
  have targets := perm_targetEntries same
  have conditions := perm_conditionEntries same
  have here := entries_cons_target isTarget target [(conditionKey,
    .list [.string condition.column, .string condition.expression])]
  have there := entries_cons_condition isCondition
    (.list [.string condition.column, .string condition.expression]) []
  rw [here.1, there.1] at targets
  rw [here.2, there.2] at conditions
  exact ⟨List.perm_singleton.mp targets, List.perm_singleton.mp conditions⟩

/-- A join map with one target and one condition consists of these two. -/
theorem exists_arePair (each : ∀ entry ∈ entries, IsJoinEntry entry.1 entry.2)
    (pair : IsPair ⟨entries⟩) : ∃ kind target condition, ArePair entries kind target condition := by
  obtain ⟨targets, conditions⟩ := pair
  have two : entries.length = 2 := by rw [length_entries each, targets, conditions]
  obtain ⟨⟨firstKey, first⟩, ⟨secondKey, second⟩, rfl⟩ := List.length_eq_two.mp two
  obtain ⟨here, there⟩ := List.forall_mem_cons.mp each
  have there := List.forall_mem_singleton.mp there
  cases here with
  | target kind spelled _ =>
    rw [(entries_cons_target spelled _ _).1, List.length_cons] at targets
    cases there with
    | target other again _ =>
      rw [(entries_cons_target again _ _).1, List.length_cons] at targets
      omega
    | @condition _ column expression again _ =>
      exact ⟨kind, first, ⟨column, expression⟩, firstKey, secondKey, spelled, again, .refl _⟩
  | @condition _ column expression spelled _ =>
    rw [(entries_cons_condition spelled _ _).2, List.length_cons] at conditions
    cases there with
    | target kind again _ =>
      exact ⟨kind, second, ⟨column, expression⟩, secondKey, firstKey, again, spelled, .swap _ _ _⟩
    | condition again _ =>
      rw [(entries_cons_condition again _ _).2, List.length_cons] at conditions
      omega

end

/-- The items of a list of joins are maps. -/
theorem items_eq_map {items : List Value} (each : ∀ item ∈ items, IsJoin item) :
    items = (joinMaps (.list items)).map .map := by
  induction items with
  | nil => rfl
  | cons item rest ih =>
    obtain ⟨here, there⟩ := List.forall_mem_cons.mp each
    cases here
    exact congrArg (_ :: ·) (ih there)

/-- Joins are the clauses of their maps, one after the other. -/
theorem clauses_of_compileJoins {scope : Scope} {spec : Value} {text : String}
    (success : compileJoins scope spec = .ok text) :
    ∃ clauses, List.Forall₂ (fun fields clause => compileJoins scope (.map fields) = .ok clause)
        (joinMaps spec) clauses ∧ text = String.join clauses := by
  cases spec with
  | scalar value => cases success
  | map fields => exact ⟨[text], .cons success .nil, by simp⟩
  | list items =>
    obtain ⟨joins, read, -⟩ := map_eq_ok.mp success
    have maps : items = (joinMaps (.list items)).map .map := by
      cases keptByReading_isTable.of_readJoins read with
      | one inside => cases inside
      | list each => exact items_eq_map each
    rw [maps, compileJoins_list] at success
    obtain ⟨clauses, compiled, rfl⟩ := map_eq_ok.mp success
    exact ⟨clauses, mapM_eq_ok_iff.mp compiled, rfl⟩

theorem compileTarget_some_eq_ok_iff {scope : Scope} {kind : JoinKind} {target : Value}
    {text : String} : compileTarget scope (some (kind, target)) = .ok text ↔
      ∃ table, compile scope target = .ok table ∧
        " " ++ kind.keyword ++ " JOIN " ++ table = text := by
  simp only [compileTarget, bind_eq_ok, pure_eq, Except.ok.injEq]

theorem compileCondition_some_eq_ok_iff {scope : Scope} {value : Value} {text : String} :
    compileCondition scope (some value) = .ok text ↔
      ∃ condition, JoinCondition.read value = .ok condition ∧ condition.text scope = text := by
  simp only [compileCondition, bind_eq_ok, pure_eq, Except.ok.injEq]

theorem ShowsWhole.isPair {scope : Scope} {fields : KeyedMap Value} {clause : String}
    (whole : ShowsWhole scope fields clause) : IsPair fields := by
  obtain ⟨kind, target, condition, table, pair, -, -⟩ := whole
  obtain ⟨targets, conditions⟩ := pair.entries_eq
  exact ⟨by rw [targets, List.length_singleton], by rw [conditions, List.length_singleton]⟩

/-- A pair that is accepted is shown as a whole. -/
theorem showsWhole_of_isPair {scope : Scope} {fields : KeyedMap Value} {clause : String}
    (single : IsPair fields) (success : compileJoins scope (.map fields) = .ok clause) :
    ShowsWhole scope fields clause := by
  obtain ⟨entries⟩ := fields
  have each : ∀ entry ∈ entries, IsJoinEntry entry.1 entry.2 := by
    obtain ⟨joins, read, -⟩ := map_eq_ok.mp success
    cases keptByReading_isTable.of_readJoins read with
    | one inside => cases inside with | map each => exact each
  obtain ⟨kind, target, condition, pair⟩ := exists_arePair each single
  obtain ⟨targets, conditions⟩ := pair.entries_eq
  obtain ⟨head, tail, headed, ended, rfl⟩ := compileJoins_map success
  rw [targets, List.getLast?_singleton, compileTarget_some_eq_ok_iff] at headed
  rw [conditions, List.getLast?_singleton, compileCondition_some_eq_ok_iff] at ended
  obtain ⟨table, inside, rfl⟩ := headed
  obtain ⟨found, read, rfl⟩ := ended
  obtain ⟨same, -⟩ := JoinCondition.read_eq_ok_iff.mp read
  obtain rfl : condition = found := by
    cases condition
    cases found
    simpa [Value.string] using same
  have separated : " " ++ condition.text scope =
      " ON " ++ scope.column condition.column true ++ " = " ++ condition.expression := by
    rw [JoinCondition.text, ← String.append_assoc, ← String.append_assoc, ← String.append_assoc]
    rfl
  refine ⟨kind, target, condition, table, pair, inside, ?_⟩
  rw [String.append_assoc, separated]
  simp only [String.append_assoc]

/-- Joins are the clauses of their maps in order, each of them the last target of the map, a blank,
and the last condition of the map. So every clause is complete, and shows all of its map, exactly
when every map has one target and one condition. -/
theorem compileJoins_complete_iff {scope : Scope} {spec : Value} {text : String}
    (success : compileJoins scope spec = .ok text) :
    (∃ clauses, text = String.join clauses ∧ List.Forall₂ (fun fields clause =>
      ∃ target condition,
        compileTarget scope (targetEntries fields.entries).getLast? = .ok target ∧
        compileCondition scope (conditionEntries fields.entries).getLast? = .ok condition ∧
        clause = target ++ " " ++ condition) (joinMaps spec) clauses) ∧
    ((∃ clauses, text = String.join clauses ∧
        List.Forall₂ (ShowsWhole scope) (joinMaps spec) clauses) ↔
      ∀ fields ∈ joinMaps spec, IsPair fields) := by
  obtain ⟨clauses, compiled, rfl⟩ := clauses_of_compileJoins success
  refine ⟨⟨clauses, rfl, compiled.imp fun _ _ => compileJoins_map⟩, ?_, fun pairs => ?_⟩
  · rintro ⟨others, -, whole⟩
    have single := whole.imp fun _ _ shown => And.intro shown.isPair shown
    exact ((List.forall₂_and_left _ _).mp single).1
  · have single := (List.forall₂_and_left _ _).mpr ⟨pairs, compiled⟩
    exact ⟨clauses, rfl, single.imp fun _ _ ⟨pair, success⟩ => showsWhole_of_isPair pair success⟩

/-- Two joins, each with one target and one condition; the second target has a join itself. -/
def pairedJoins : List (KeyedMap Value) := [
  ⟨[("-INNER", .list [.string "item", .string "i"]),
    ("-on", .list [.string "id", .string "i.user_id"])]⟩,
  ⟨[("-on", .list [.string "group_id", .string "g.id"]),
    ("-left", .map ⟨[("group", .map ⟨[("-inner", .string "role"),
      ("-on", .list [.string "role_id", .string "r.id"])]⟩)]⟩)]⟩]

theorem compileJoins_complete_iff_pairedJoins :
    ∃ clauses, List.Forall₂ (ShowsWhole (.start "me")) pairedJoins clauses ∧
      String.join clauses = " INNER JOIN `item` `i` ON `me`.`id` = i.user_id" ++
        " LEFT JOIN `group` `me` INNER JOIN `role` `me` ON `me`.`role_id` = r.id" ++
        " ON `me`.`group_id` = g.id" := by
  have success : compileJoins (.start "me") (.list (pairedJoins.map .map)) = .ok
      (" INNER JOIN `item` `i` ON `me`.`id` = i.user_id" ++
        " LEFT JOIN `group` `me` INNER JOIN `role` `me` ON `me`.`role_id` = r.id" ++
        " ON `me`.`group_id` = g.id") := rfl
  have pairs : ∀ fields ∈ pairedJoins, IsPair fields := by decide
  obtain ⟨clauses, same, whole⟩ := (compileJoins_complete_iff success).2.mpr pairs
  exact ⟨clauses, whole, same.symm⟩

/-- Joins without a target, without a condition, and with two targets. -/
def unpairedJoins : List (KeyedMap Value) := [
  ⟨[("-on", .list [.string "id", .string "i.user_id"])]⟩,
  ⟨[("-inner", .string "item")]⟩,
  ⟨[("-inner", .list [.string "item", .string "i"]),
    ("-left", .list [.string "group", .string "g"]),
    ("-on", .list [.string "id", .string "g.id"])]⟩]

/-- They are accepted. The first leaves a condition without a join, the second a join without a
condition, and the third loses its first target; none of them is shown as a whole. -/
theorem unpairedJoins_compiled :
    compileJoins (.start "me") (.list (unpairedJoins.map .map)) = .ok
        (" ON `me`.`id` = i.user_id" ++ " INNER JOIN `item` `me` " ++
          " LEFT JOIN `group` `g` ON `me`.`id` = g.id") ∧
      ∀ fields ∈ unpairedJoins, ∀ clause, ¬ ShowsWhole (.start "me") fields clause := by
  have unpaired : ∀ fields ∈ unpairedJoins, ¬ IsPair fields := by decide
  exact ⟨rfl, fun fields member clause whole => unpaired fields member whole.isPair⟩

end ParamSql.TableRef
