import ParamSql.Proofs.Supplied.Value
import ParamSql.Proofs.TableRef.Induction
import ParamSql.Proofs.Text.Compositional
import ParamSql.TableRef.Render

/-!
# The texts of a table reference

What a table reference shows of its description: the names of tables and aliases, the columns of
join conditions and the expressions that they are compared with. Every one of them was given, and
all but the expressions were given as names.
-/
namespace ParamSql

open Text

namespace Value

/-- The column of a join condition. -/
def joinColumn : Value → List String
  | .list (column :: _) => column.text?.toList
  | _ => []

mutual

/-- The names in a table reference: those of its tables and aliases, and the columns of its join
conditions. -/
def tableIdentifiers : Value → List String
  | .scalar value => value.text?.toList
  | .list items => items.flatMap (·.text?.toList)
  | .map ⟨[(name, joins)]⟩ => name :: joinIdentifiers joins
  | .map _ => []

/-- The names in one join map or a list of them. -/
def joinIdentifiers : Value → List String
  | .scalar _ => []
  | .list items => joinIdentifiersOfItems items
  | .map ⟨entries⟩ => joinIdentifiersOfEntries entries

/-- The names in a list of join maps. -/
def joinIdentifiersOfItems : List Value → List String
  | [] => []
  | .map ⟨entries⟩ :: rest => joinIdentifiersOfEntries entries ++ joinIdentifiersOfItems rest
  | _ :: rest => joinIdentifiersOfItems rest

/-- The names in the entries of a join map. -/
def joinIdentifiersOfEntries : List (String × Value) → List String
  | [] => []
  | (key, value) :: rest =>
    match Directive.read key with
    | .ok (some .inner) => tableIdentifiers value ++ joinIdentifiersOfEntries rest
    | .ok (some .left) => tableIdentifiers value ++ joinIdentifiersOfEntries rest
    | .ok (some .on) => value.joinColumn ++ joinIdentifiersOfEntries rest
    | _ => joinIdentifiersOfEntries rest

end

theorem toList_text?_subset_texts (value : Value) : value.text?.toList ⊆ value.texts := by
  cases value with
  | scalar value => exact List.Subset.refl _
  | list items => exact List.nil_subset _
  | map fields => exact List.nil_subset _

theorem joinColumn_subset_texts : ∀ value : Value, value.joinColumn ⊆ value.texts
  | .scalar _ => List.nil_subset _
  | .list [] => List.nil_subset _
  | .list (column :: _) => List.subset_append_of_subset_left _ column.toList_text?_subset_texts
  | .map _ => List.nil_subset _

theorem flatMap_text?_subset_texts (items : List Value) :
    items.flatMap (·.text?.toList) ⊆ textsOfItems items := by
  induction items with
  | nil => exact List.Subset.refl _
  | cons item rest ih =>
    rw [List.flatMap_cons]
    exact append_subset_append item.toList_text?_subset_texts ih

mutual

theorem tableIdentifiers_subset_texts : ∀ value : Value, value.tableIdentifiers ⊆ value.texts
  | .scalar _ => List.Subset.refl _
  | .list items => flatMap_text?_subset_texts items
  | .map ⟨[]⟩ => List.nil_subset _
  | .map ⟨[(name, joins)]⟩ =>
    List.cons_subset_cons name <|
      List.subset_append_of_subset_left _ (joinIdentifiers_subset_texts joins)
  | .map ⟨_ :: _ :: _⟩ => List.nil_subset _

theorem joinIdentifiers_subset_texts : ∀ value : Value, value.joinIdentifiers ⊆ value.texts
  | .scalar _ => List.nil_subset _
  | .list items => joinIdentifiersOfItems_subset_texts items
  | .map ⟨entries⟩ => joinIdentifiersOfEntries_subset_texts entries

theorem joinIdentifiersOfItems_subset_texts : ∀ items : List Value,
    joinIdentifiersOfItems items ⊆ textsOfItems items
  | [] => List.Subset.refl _
  | .map ⟨entries⟩ :: rest =>
    append_subset_append (joinIdentifiersOfEntries_subset_texts entries)
      (joinIdentifiersOfItems_subset_texts rest)
  | .scalar _ :: rest =>
    List.subset_append_of_subset_right _ (joinIdentifiersOfItems_subset_texts rest)
  | .list _ :: rest =>
    List.subset_append_of_subset_right _ (joinIdentifiersOfItems_subset_texts rest)

theorem joinIdentifiersOfEntries_subset_texts : ∀ entries : List (String × Value),
    joinIdentifiersOfEntries entries ⊆ textsOfEntries entries
  | [] => List.Subset.refl _
  | (key, value) :: rest => by
    have table := tableIdentifiers_subset_texts value
    have column := value.joinColumn_subset_texts
    have others := joinIdentifiersOfEntries_subset_texts rest
    simp only [joinIdentifiersOfEntries, textsOfEntries]
    split <;> grind

end

end Value

/-- The texts of a join condition. -/
def JoinCondition.names (condition : JoinCondition) : List String :=
  [condition.column, condition.expression]

namespace TableRef

mutual

/-- The texts of a table reference. -/
def names : TableRef → List String
  | .base table => [table]
  | .aliased table name => [table, name]
  | .joined table joins => table :: namesOfJoins joins

/-- The texts of joins. -/
def namesOfJoins : List (Join TableRef) → List String
  | [] => []
  | join :: rest => namesOfJoin join ++ namesOfJoins rest

/-- The texts of a join. -/
def namesOfJoin : Join TableRef → List String
  | ⟨target, condition⟩ => namesOfTarget target ++ (condition.map (·.names)).getD []

/-- The texts of the target of a join. -/
def namesOfTarget : Option (JoinKind × TableRef) → List String
  | none => []
  | some (_, target) => names target

end

mutual

/-- The texts of a table reference that are names. -/
def identifiers : TableRef → List String
  | .base table => [table]
  | .aliased table name => [table, name]
  | .joined table joins => table :: identifiersOfJoins joins

/-- The names of joins. -/
def identifiersOfJoins : List (Join TableRef) → List String
  | [] => []
  | join :: rest => identifiersOfJoin join ++ identifiersOfJoins rest

/-- The names of a join. -/
def identifiersOfJoin : Join TableRef → List String
  | ⟨target, condition⟩ => identifiersOfTarget target ++ (condition.map (·.column)).toList

/-- The names of the target of a join. -/
def identifiersOfTarget : Option (JoinKind × TableRef) → List String
  | none => []
  | some (_, target) => identifiers target

end

end TableRef

namespace TableRef

/-- Every text of a table reference was given. -/
theorem names_subset_of_read {value : Value} {ref : TableRef} (success : read value = .ok ref) :
    ref.names ⊆ value.texts := by
  have kept : KeptByReading (fun value ref => ref.names ⊆ value.texts)
      (fun value joins => namesOfJoins joins ⊆ value.texts)
      (fun given joins => namesOfJoins joins ⊆ Value.textsOfItems given)
      (fun join given final =>
        namesOfJoin final ⊆ namesOfJoin join ++ Value.textsOfEntries given) := by
    constructor
    case base => exact fun _ => List.Subset.refl _
    case aliased => exact fun _ _ => List.Subset.refl _
    case joined =>
      intro table given joins _ below
      rw [Value.texts, Value.textsOfEntries, Value.textsOfEntries, List.append_nil]
      exact List.cons_subset_cons table below
    case one =>
      intro given join inside
      rw [namesOfJoins, namesOfJoins, List.append_nil]
      exact inside
    case list => exact fun inside => inside
    case noItem => exact List.nil_subset _
    case item => exact fun first later => Value.append_subset_append first later
    case noEntry => exact fun join => List.subset_append_left _ _
    -- A part of a join that an entry replaces is gone; the others are still there.
    case target =>
      intro kind key value reference condition before rest final _ here others
      simp only [namesOfJoin, namesOfTarget, Value.textsOfEntries] at others ⊢
      grind
    case condition =>
      intro key column expression target before rest final _ _ others
      simp only [namesOfJoin, JoinCondition.names, Option.map_some, Option.getD_some,
        Value.textsOfEntries, Value.texts, Value.textsOfItems, Value.texts_string] at others ⊢
      grind
  exact kept.of_read success

/-- Every name of a table reference was given as a name, and none of them is empty. -/
theorem identifiers_of_read {value : Value} {ref : TableRef} (success : read value = .ok ref) :
    ∀ name ∈ ref.identifiers, name ∈ value.tableIdentifiers ∧ name ≠ "" := by
  have kept : KeptByReading
      (fun value ref => ∀ name ∈ ref.identifiers, name ∈ value.tableIdentifiers ∧ name ≠ "")
      (fun value joins =>
        ∀ name ∈ identifiersOfJoins joins, name ∈ value.joinIdentifiers ∧ name ≠ "")
      (fun given joins =>
        ∀ name ∈ identifiersOfJoins joins, name ∈ Value.joinIdentifiersOfItems given ∧ name ≠ "")
      (fun join given final => ∀ name ∈ identifiersOfJoin final, name ∈ identifiersOfJoin join ∨
        name ∈ Value.joinIdentifiersOfEntries given ∧ name ≠ "") := by
    constructor
    case base =>
      intro table present
      exact List.forall_mem_singleton.mpr ⟨List.mem_singleton_self table, present⟩
    case aliased =>
      intro table name tablePresent aliasPresent
      simp [identifiers, Value.string, Value.tableIdentifiers, Value.text?, Scalar.text?,
        tablePresent, aliasPresent]
    case joined =>
      intro table given joins present below
      simp only [identifiers, Value.tableIdentifiers, List.forall_mem_cons]
      exact ⟨⟨List.mem_cons_self, present⟩, fun name member =>
        (below name member).imp_left (List.mem_cons_of_mem _)⟩
    case one =>
      intro given join inside name member
      rw [identifiersOfJoins, identifiersOfJoins, List.append_nil] at member
      exact (inside name member).resolve_left List.not_mem_nil
    case list => exact fun inside => inside
    case noItem => exact nofun
    case item =>
      intro given join rest joins first later name member
      rcases List.mem_append.mp member with here | there
      · have given := (first name here).resolve_left List.not_mem_nil
        exact given.imp_left (List.mem_append_left _)
      · exact (later name there).imp_left (List.mem_append_right _)
    case noEntry => exact fun _ _ member => .inl member
    -- The names of a join were there before its entries, or they were given in them.
    case target =>
      intro kind key value reference condition before rest final known here others
      have given : Value.joinIdentifiersOfEntries ((key, value) :: rest) =
          value.tableIdentifiers ++ Value.joinIdentifiersOfEntries rest := by
        cases kind <;> simp only [Value.joinIdentifiersOfEntries, known, JoinKind.directive]
      simp only [identifiersOfJoin, identifiersOfTarget, given] at others ⊢
      grind
    case condition =>
      intro key column expression target before rest final known present others
      simp only [identifiersOfJoin, Option.map_some, Option.toList_some,
        Value.joinIdentifiersOfEntries, known, Value.joinColumn, Value.string, Value.text?,
        Scalar.text?] at others ⊢
      grind
  exact kept.of_read success

end TableRef

variable {holds : String → Prop} {scope : Scope}

theorem JoinCondition.holds_text (kept : Compositional holds)
    (base : holds (Name.quote scope.defaultAlias)) {condition : JoinCondition}
    (column : Spelled holds condition.column) (expression : holds condition.expression) :
    holds (condition.text scope) := by
  have left := Scope.holds_column kept base column true
  have on : holds "ON " := kept.word (by decide)
  have equals : holds " = " := kept.word (by decide)
  exact kept.append (kept.append (kept.append on left) equals) expression

namespace TableRef

mutual

/-- What holds of the texts of a table reference holds of what is written. -/
theorem holds_text (kept : Compositional holds) (base : holds (Name.quote scope.defaultAlias)) :
    ∀ {ref : TableRef}, (∀ name ∈ ref.identifiers, Spelled holds name) →
      (∀ text ∈ ref.names, holds text) → holds (ref.text scope)
  | .base table, spelled, _ => by
    have quoted := (spelled table List.mem_cons_self).quoted
    have space : holds " " := kept.word (by decide)
    exact kept.append (kept.append quoted space) base
  | .aliased table name, spelled, _ => by
    simp only [identifiers, List.forall_mem_cons] at spelled
    have space : holds " " := kept.word (by decide)
    exact kept.append (kept.append spelled.1.quoted space) spelled.2.1.quoted
  | .joined table joins, spelled, given => by
    obtain ⟨named, below⟩ := List.forall_mem_cons.mp spelled
    have space : holds " " := kept.word (by decide)
    have joined := holds_joinsText kept base below (List.forall_mem_cons.mp given).2
    exact kept.append (kept.append (kept.append named.quoted space) base) joined

theorem holds_joinsText (kept : Compositional holds)
    (base : holds (Name.quote scope.defaultAlias)) : ∀ {joins : List (Join TableRef)},
      (∀ name ∈ identifiersOfJoins joins, Spelled holds name) →
      (∀ text ∈ namesOfJoins joins, holds text) → holds (joinsText scope joins)
  | [], _, _ => kept.empty
  | ⟨target, condition⟩ :: rest, spelled, given => by
    simp only [identifiersOfJoins, identifiersOfJoin, List.forall_mem_append] at spelled
    simp only [namesOfJoins, namesOfJoin, List.forall_mem_append] at given
    obtain ⟨⟨targetSpelled, columnSpelled⟩, restSpelled⟩ := spelled
    obtain ⟨⟨targetGiven, conditionGiven⟩, restGiven⟩ := given
    have first := holds_targetText kept base targetSpelled targetGiven
    have space : holds " " := kept.word (by decide)
    have second : holds ((condition.map (·.text scope)).getD "") := by
      cases condition with
      | none => exact kept.empty
      | some condition =>
        refine JoinCondition.holds_text kept base (columnSpelled _ List.mem_cons_self) ?_
        exact conditionGiven _ (List.mem_cons_of_mem _ List.mem_cons_self)
    exact kept.append (kept.append (kept.append first space) second)
      (holds_joinsText kept base restSpelled restGiven)

theorem holds_targetText (kept : Compositional holds)
    (base : holds (Name.quote scope.defaultAlias)) :
    ∀ {target : Option (JoinKind × TableRef)},
      (∀ name ∈ identifiersOfTarget target, Spelled holds name) →
      (∀ text ∈ namesOfTarget target, holds text) → holds (targetText scope target)
  | none, _, _ => kept.empty
  | some (kind, target), spelled, given => by
    have space : holds " " := kept.word (by decide)
    have keyword : holds kind.keyword := kept.word (by cases kind <;> decide)
    have join : holds " JOIN " := kept.word (by decide)
    exact kept.append (kept.append (kept.append space keyword) join)
      (holds_text kept base spelled given)

end

theorem holds_compile (kept : Compositional holds) (base : holds (Name.quote scope.defaultAlias))
    {spec : Value} {result : String}
    (spelled : ∀ name ∈ spec.tableIdentifiers, name ≠ "" → Spelled holds name)
    (given : ∀ text ∈ spec.texts, holds text) (success : compile scope spec = .ok result) :
    holds result := by
  obtain ⟨ref, accepted, same⟩ := Outcome.bind_eq_ok.mp success
  cases same
  have supplied := names_subset_of_read accepted
  refine holds_text kept base (fun name member => ?_) fun text member =>
    given text (supplied member)
  obtain ⟨identified, present⟩ := identifiers_of_read accepted name member
  exact spelled name identified present

end TableRef

end ParamSql
