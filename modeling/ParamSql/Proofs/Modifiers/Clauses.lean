import ParamSql.Modifiers.Render
import ParamSql.Proofs.Modifiers.Construction

/-!
# The clauses of modifiers

What is written for modifiers is the clauses of those that are given, each on its own, in an order
that does not depend on how they were given. The first clause in that order that cannot be written
decides the error.
-/
namespace ParamSql

namespace Modifier

/-- The words with which the clause of a modifier begins. -/
def opening : Modifier → String
  | .groupBy => " GROUP BY "
  | .orderBy => " ORDER BY "
  | .rows => " LIMIT "
  | .offset => " OFFSET "

/-- The clause of a modifier, on its own. -/
def clause (scope : Scope) : Modifier → Value → Except Error String
  | .groupBy => ColumnClause.groupBy.compile scope
  | .orderBy => ColumnClause.orderBy.compile scope
  | .rows => CountClause.limit.compile
  | .offset => CountClause.offset.compile

end Modifier

theorem ColumnClause.begins_of_compile {clause : ColumnClause} {scope : Scope} {spec : Value}
    {text : String} (success : clause.compile scope spec = .ok text) :
    ∃ rest, text = " " ++ clause.keyword ++ " " ++ rest := by
  obtain ⟨columns, -, written⟩ := Outcome.bind_eq_ok.mp success
  rw [ColumnClause.text] at written
  split at written
  · cases written
  · exact ⟨_, (Except.ok.inj written).symm⟩

theorem CountClause.begins_of_compile {clause : CountClause} {spec : Value} {text : String}
    (success : clause.compile spec = .ok text) :
    ∃ rest, text = " " ++ clause.keyword ++ " " ++ rest := by
  obtain ⟨count, -, written⟩ := Outcome.bind_eq_ok.mp success
  exact ⟨toString count, (Except.ok.inj written).symm⟩

theorem Modifier.begins_of_clause {scope : Scope} {modifier : Modifier} {spec : Value}
    {text : String} (success : modifier.clause scope spec = .ok text) :
    ∃ rest, text = modifier.opening ++ rest := by
  cases modifier with
  | groupBy => exact ColumnClause.begins_of_compile success
  | orderBy => exact ColumnClause.begins_of_compile success
  | rows => exact CountClause.begins_of_compile success
  | offset => exact CountClause.begins_of_compile success

namespace Modifiers

/-- The modifiers of a list that are given, with their values. -/
def givenOf (modifiers : Modifiers) (names : List Modifier) : List (Modifier × Value) :=
  names.filterMap fun modifier => (modifiers.get? modifier).map (modifier, ·)

/-- The modifiers that are given, with their values, in the order of their clauses. -/
def given (modifiers : Modifiers) : List (Modifier × Value) := modifiers.givenOf Modifier.all

theorem mem_given_iff {modifiers : Modifiers} {modifier : Modifier} {value : Value} :
    (modifier, value) ∈ modifiers.given ↔ modifiers.get? modifier = some value := by
  have listed : modifier ∈ Modifier.all := by cases modifier <;> decide
  simp [given, givenOf, listed]

/-- The modifiers that are given are named in order, each once. -/
theorem given_sublist (modifiers : Modifiers) :
    (modifiers.given.map Prod.fst).Sublist Modifier.all := by
  have names : modifiers.given.map Prod.fst =
      Modifier.all.filter fun modifier => (modifiers.get? modifier).isSome := by
    rw [given, givenOf, List.map_filterMap, ← List.filterMap_eq_filter]
    congr 1
    funext modifier
    cases here : modifiers.get? modifier <;> simp [Option.guard, here]
  rw [names]
  exact List.filter_sublist

/-- A modifier that is absent adds nothing to the text. -/
theorem join_mapM_givenOf (scope : Scope) (modifiers : Modifiers) (names : List Modifier) :
    String.join <$> (modifiers.givenOf names).mapM (fun entry => entry.1.clause scope entry.2) =
      String.join <$> names.mapM fun modifier =>
        optional (modifier.clause scope) (modifiers.get? modifier) := by
  induction names with
  | nil => rfl
  | cons modifier rest ih =>
    cases here : modifiers.get? modifier with
    | none =>
      have absent : modifiers.givenOf (modifier :: rest) = modifiers.givenOf rest := by
        simp [givenOf, here]
      rw [absent, Outcome.join_mapM_cons, here, ih, optional, Outcome.ok_bind]
      simp only [String.empty_append, bind_pure]
    | some value =>
      have present : modifiers.givenOf (modifier :: rest) =
          (modifier, value) :: modifiers.givenOf rest := by
        simp [givenOf, here]
      rw [present, Outcome.join_mapM_cons, Outcome.join_mapM_cons, here, ih, optional]

/-- The text of modifiers is the clauses of those that are given. -/
theorem compile_eq (scope : Scope) (modifiers : Modifiers) :
    modifiers.compile scope =
      String.join <$> modifiers.given.mapM fun entry => entry.1.clause scope entry.2 := by
  rw [given, join_mapM_givenOf]
  simp [Modifier.all, compile, get?, Modifier.clause, String.append_assoc]

/-- A modifier by itself is its clause. -/
theorem compile_set_none (scope : Scope) (modifier : Modifier) (value : Value) :
    (none.set modifier value).compile scope = modifier.clause scope value := by
  have single : (none.set modifier value).given = [(modifier, value)] := by
    cases modifier <;> rfl
  rw [compile_eq, single, Outcome.join_mapM_cons]
  cases modifier.clause scope value <;> simp

theorem compile_eq_ok_iff {scope : Scope} {modifiers : Modifiers} {sql : String} :
    modifiers.compile scope = .ok sql ↔ ∃ clauses, sql = String.join clauses ∧
      List.Forall₂ (fun entry clause => entry.1.clause scope entry.2 = .ok clause)
        modifiers.given clauses := by
  rw [compile_eq, Outcome.map_eq_ok]
  constructor
  · rintro ⟨clauses, written, rfl⟩
    exact ⟨clauses, rfl, Outcome.mapM_eq_ok_iff.mp written⟩
  · rintro ⟨clauses, rfl, written⟩
    exact ⟨clauses, Outcome.mapM_eq_ok_iff.mpr written, rfl⟩

theorem compile_eq_error_iff {scope : Scope} {modifiers : Modifiers} {fault : Error} :
    modifiers.compile scope = .error fault ↔ ∃ before entry after,
      modifiers.given = before ++ entry :: after ∧
      (∀ earlier ∈ before, ∃ clause, earlier.1.clause scope earlier.2 = .ok clause) ∧
      entry.1.clause scope entry.2 = .error fault := by
  rw [compile_eq, Outcome.map_eq_error, Outcome.mapM_eq_error_iff]

/-- The ways to give modifiers agree. A map is accepted exactly when all its keys are keys of
modifiers, also when it is first made a value, and is refused for one of its keys otherwise; what it
gives is what its entries give one by one, in any order. What is given one by one, with repetitions,
is what a map gives that holds the last value of each modifier, and there is such a map. So the
order of the entries of a map does not matter to what it gives or to what is written for it in any
scope, and maps that are refused are refused in the same category. The text is the clauses of the
modifiers that are given, each with its own words in front, in the one order of all modifiers; the
first in this order that cannot be written is the error. -/
theorem settings_agree :
    (∀ fields : KeyedMap Value, fields.KeysDistinct →
      ((∃ result, ofValue (.map fields) = .ok result) ↔
        ∀ key ∈ fields.keys, key ∈ ["groupBy", "orderBy", "rows", "offset"]) ∧
      (∀ fault, ofValue (.map fields) = .error fault → ∃ key ∈ fields.keys,
        key ∉ ["groupBy", "orderBy", "rows", "offset"] ∧ fault = .unknownOption key) ∧
      ∀ result,
        (ofValue (.ofMap fields) = .ok result ↔ ofValue (.map fields) = .ok result) ∧
        (ofValue (.map fields) = .ok result →
          (∃ chain, entries chain = fields.entries) ∧
          ∀ chain, (entries chain).Perm fields.entries → none.setAll chain = result)) ∧
    (∀ chain, HoldsLast chain (.ofList (entries chain)) ∧
      ∀ fields, HoldsLast chain fields → ofValue (.map fields) = .ok (none.setAll chain)) ∧
    (∀ fields other : KeyedMap Value, fields.KeysDistinct → fields.entries.Perm other.entries →
      (∀ result, ofValue (.map fields) = .ok result →
        ofValue (.map other) = .ok result ∧
        ∀ scope, (do (← ofValue (.map other)).compile scope) = result.compile scope) ∧
      ∀ fault, ofValue (.map fields) = .error fault →
        ∃ otherFault, ofValue (.map other) = .error otherFault ∧
          otherFault.category = fault.category) ∧
    ∀ (scope : Scope) (modifiers : Modifiers),
      (∀ modifier value, (modifier, value) ∈ modifiers.given ↔
        modifiers.get? modifier = some value) ∧
      (modifiers.given.map Prod.fst).Sublist [.groupBy, .orderBy, .rows, .offset] ∧
      (∀ modifier spec text, Modifier.clause scope modifier spec = .ok text →
        ∃ rest, text = modifier.opening ++ rest) ∧
      (∀ sql, modifiers.compile scope = .ok sql ↔ ∃ clauses, sql = String.join clauses ∧
        List.Forall₂ (fun entry clause => entry.1.clause scope entry.2 = .ok clause)
          modifiers.given clauses) ∧
      ∀ fault, modifiers.compile scope = .error fault ↔ ∃ before entry after,
        modifiers.given = before ++ entry :: after ∧
        (∀ earlier ∈ before, ∃ clause, earlier.1.clause scope earlier.2 = .ok clause) ∧
        entry.1.clause scope entry.2 = .error fault := by
  refine ⟨?_, ?_, ?_, ?_⟩
  · intro fields distinct
    refine ⟨exists_ofValue_map_iff, fun _ => ofValue_map_eq_error, fun result =>
      ⟨ofValue_ofMap_eq_ok_iff, fun success => ⟨?_, fun chain => setAll_of_perm distinct success⟩⟩⟩
    obtain ⟨chain, same, -⟩ := ofValue_map_eq_ok_iff.mp success
    exact ⟨chain, same⟩
  · exact fun chain => ⟨holdsLast_ofList chain, fun fields => ofValue_of_holdsLast⟩
  · intro fields other distinct perm
    constructor
    · intro result success
      have same := ofValue_of_perm distinct perm success
      refine ⟨same, fun scope => ?_⟩
      rw [same, Outcome.ok_bind]
    · intro fault failed
      cases outcome : ofValue (.map other) with
      | ok result =>
        have otherDistinct : other.KeysDistinct := (perm.map Prod.fst).nodup distinct
        have success := ofValue_of_perm otherDistinct perm.symm outcome
        rw [failed] at success
        cases success
      | error otherFault =>
        obtain ⟨_, -, -, rfl⟩ := ofValue_map_eq_error failed
        obtain ⟨_, -, -, rfl⟩ := ofValue_map_eq_error outcome
        exact ⟨_, rfl, rfl⟩
  · exact fun scope modifiers => ⟨fun _ _ => mem_given_iff, given_sublist modifiers,
      fun _ _ _ => Modifier.begins_of_clause, fun _ => compile_eq_ok_iff,
      fun _ => compile_eq_error_iff⟩

/-- A row count that is given twice, and an offset that is no count. -/
def repeatedChain : List (Modifier × Value) :=
  [(.offset, .string "x"), (.rows, .integer 5), (.groupBy, .string "a"), (.rows, .integer 10)]

def lastFields : KeyedMap Value :=
  ⟨[("rows", .integer 10), ("groupBy", .string "a"), ("offset", .string "x")]⟩

/-- The offset is the error, behind two clauses that can be written; the key of a modifier in
another case is unknown. -/
theorem settings_agree_repeatedChain :
    lastFields.KeysDistinct ∧ HoldsLast repeatedChain lastFields ∧
      ofValue (.map lastFields) = .ok (none.setAll repeatedChain) ∧
      ofValue (.map ⟨lastFields.entries.reverse⟩) = .ok (none.setAll repeatedChain) ∧
      (none.setAll repeatedChain).given =
        [(.groupBy, .string "a"), (.rows, .integer 10), (.offset, .string "x")] ∧
      (none.setAll repeatedChain).compile (.start "me") = .error (.notNumeric .offset "x") ∧
      (none.setAll repeatedChain.tail).compile (.start "me") = .ok " GROUP BY `me`.`a` LIMIT 10" ∧
      ¬ ∃ result, ofValue (.map ⟨[("rows", .integer 5), ("Rows", .integer 10)]⟩) = .ok result := by
  obtain ⟨maps, chains, orders, texts⟩ := settings_agree
  have distinct : lastFields.KeysDistinct := (by decide : lastFields.keys.Nodup)
  have perm : lastFields.entries.Perm (KeyedMap.ofList (entries repeatedChain)).entries := by decide
  obtain ⟨⟨-, reads⟩, agrees⟩ := chains repeatedChain
  have holds : HoldsLast repeatedChain lastFields :=
    ⟨distinct, fun key => (KeyedMap.get?_eq_of_perm distinct perm key).trans (reads key)⟩
  have success := agrees lastFields holds
  have reversed := (orders lastFields ⟨lastFields.entries.reverse⟩ distinct
    (List.reverse_perm _).symm).1 _ success
  obtain ⟨-, -, -, -, fails⟩ := texts (.start "me") (none.setAll repeatedChain)
  obtain ⟨-, -, -, writes, -⟩ := texts (.start "me") (none.setAll repeatedChain.tail)
  refine ⟨distinct, holds, success, reversed.1, by decide, ?_, ?_, ?_⟩
  · refine (fails _).mpr ⟨[(.groupBy, .string "a"), (.rows, .integer 10)], (.offset, .string "x"),
      [], by decide, ?_, by decide⟩
    exact List.forall_mem_cons.mpr ⟨⟨" GROUP BY `me`.`a`", by decide⟩,
      List.forall_mem_singleton.mpr ⟨" LIMIT 10", by decide⟩⟩
  · exact (writes _).mpr ⟨[" GROUP BY `me`.`a`", " LIMIT 10"], by decide,
      .cons (by decide) (.cons (by decide) .nil)⟩
  · have twoKeys : (⟨[("rows", .integer 5), ("Rows", .integer 10)]⟩ : KeyedMap Value).KeysDistinct :=
      (by decide : ["rows", "Rows"].Nodup)
    rw [(maps _ twoKeys).1]
    decide

end Modifiers

end ParamSql
