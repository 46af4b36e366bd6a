import ParamSql.Proofs.Filter.Conditions
import ParamSql.Proofs.Filter.Reading
import ParamSql.Proofs.Modifiers.Induction
import ParamSql.Proofs.Placement.Basic
import ParamSql.Proofs.Projection.Induction
import ParamSql.TableRef.Render

/-!
# What reading accepts as a key

Each language looks at the keys of its maps while it reads them. In an accepted description the
directives are in place, and what is kept of the other keys as a name does not begin with a dash. A
table with joins is the exception: its name is a key that is taken as it is.
-/
namespace ParamSql

namespace SearchCondition

/-- The names of a leaf that were keys: its column and its operator, unless it was a bare name. -/
def Leaf.keys (leaf : Leaf) : List String :=
  match leaf.comparison with
  | some comparison => [leaf.column, comparison.operator.text]
  | none => []

/-- No key that is kept as a name begins with a dash. -/
def KeysAreNames (leaves : List Leaf) : Prop :=
  ∀ leaf ∈ leaves, ∀ key ∈ leaf.keys, Directive.isKey key = false

end SearchCondition

/-- A list of scalars under a key has no maps, so that only the key matters. -/
theorem inPlace_operands {key : String} {values : List Scalar}
    (allowed : Role.comparison.Allows key) :
    ∀ placed ∈ (Value.map ⟨[(key, .list (values.map .scalar))]⟩).mapsAs .comparison,
      placed.InPlace := by
  have below : (Value.map ⟨[(key, .list (values.map .scalar))]⟩).mapsAs .comparison =
      [⟨.comparison, ⟨[(key, .list (values.map .scalar))]⟩⟩] := by
    simp [Value.mapsAs, Value.mapsAsOfEntries, Value.mapsAsOfItems_scalars]
  rw [below]
  exact List.forall_mem_singleton.mpr (PlacedMap.inPlace_single allowed)

/-- In the comparison of a column, the directive is alone. -/
theorem Comparison.Describes.inPlace {value : Value} {comparison : Comparison}
    (described : Describes value comparison) :
    (∀ placed ∈ value.mapsAs .comparison, placed.InPlace) ∧
      Directive.isKey comparison.operator.text = false := by
  have equals : Directive.isKey Operator.equals.text = false := by decide
  have membership : Directive.isKey Operator.membership.text = false := by decide
  have range : Directive.isKey Operator.range.text = false := by decide
  cases described with
  | equality comparable => exact ⟨nofun, equals⟩
  | membership known comparable present =>
    exact ⟨inPlace_operands (Role.allows_of_read known (by decide)), membership⟩
  | range known comparable two =>
    exact ⟨inPlace_operands (Role.allows_of_read known (by decide)), range⟩
  | raw known comparable =>
    exact ⟨List.forall_mem_singleton.mpr (PlacedMap.inPlace_single (Role.allows_of_name known)),
      Directive.read_eq_none_iff.mp known⟩

namespace SearchCondition

/-- An accepted filter has its directives in place, and no others are taken for names. -/
theorem inPlace_of_read {spec : Value} {condition : SearchCondition}
    (success : read spec = .ok condition) :
    (∀ placed ∈ spec.mapsAs .filter, placed.InPlace) ∧ KeysAreNames condition.leaves := by
  suffices kept : KeptByReading
      (fun value condition => (∀ placed ∈ value.mapsAs .filter, placed.InPlace) ∧
        KeysAreNames condition.leaves)
      (fun given parts => (∀ placed ∈ Value.mapsAsOfItems .filter given, placed.InPlace) ∧
        KeysAreNames (leavesOfParts parts))
      (fun given parts => EntriesInPlace .filter given ∧ KeysAreNames (leavesOfParts parts)) from
    kept.of_read success
  constructor
  case list => exact fun inside => inside
  case map => exact fun inside => ⟨inside.1.map rfl, inside.2⟩
  case noItem => exact ⟨nofun, nofun⟩
  case bare =>
    intro column rest parts present later
    exact ⟨later.1, List.forall_mem_cons.mpr ⟨nofun, later.2⟩⟩
  case nested =>
    intro given inner rest parts inside later
    exact ⟨List.forall_mem_append.mpr ⟨inside.1.map rfl, later.1⟩,
      List.forall_mem_append.mpr ⟨inside.2, later.2⟩⟩
  case noEntry => exact ⟨.nil, nofun⟩
  case group =>
    intro key connective given inner rest parts known inside later
    have language : Role.filter.below key = .filter := by
      simp only [Role.below, Directive.find?_of_read known]
      cases connective <;> rfl
    have allowed : Role.filter.Allows key :=
      Role.allows_of_read known (by cases connective <;> decide)
    refine ⟨.cons allowed ?_ later.1, List.forall_mem_append.mpr ⟨inside.2, later.2⟩⟩
    rw [language]
    exact inside.1
  case column =>
    intro key value comparison rest parts name present described later
    have language : Role.filter.below key = .comparison := by
      simp only [Role.below, Directive.find?_of_read name]
    obtain ⟨below, operator⟩ := described.inPlace
    have column := Directive.read_eq_none_iff.mp name
    refine ⟨.cons (Role.allows_of_name name) ?_ later.1, List.forall_mem_cons.mpr ⟨?_, later.2⟩⟩
    · rw [language]
      exact below
    · exact List.forall_mem_cons.mpr ⟨column, List.forall_mem_singleton.mpr operator⟩

end SearchCondition

namespace ColumnClause

/-- In an accepted clause, a direction is alone. -/
theorem inPlace_of_read {clause : ColumnClause} {spec : Value} {columns : List ListedColumn}
    (success : clause.read spec = .ok columns) :
    ∀ placed ∈ spec.mapsAs .ordering, placed.InPlace := by
  suffices kept : KeptByReading clause
      (fun spec _ => ∀ placed ∈ spec.mapsAs .ordering, placed.InPlace)
      (fun items _ => ∀ placed ∈ Value.mapsAsOfItems .ordering items, placed.InPlace) from
    kept.of_read success
  constructor
  case column => exact fun _ => nofun
  case list => exact fun inside => inside
  case noItem => exact nofun
  case item => exact fun here there => List.forall_mem_append.mpr ⟨here, there⟩
  case directed =>
    intro key value columns direction orders spelled below
    have allowed : Role.ordering.Allows key :=
      fun _ => ⟨direction.directive, by cases direction <;> decide, spelled⟩
    refine List.forall_mem_cons.mpr ⟨PlacedMap.inPlace_single allowed, ?_⟩
    rw [Value.mapsAsOfEntries, Value.mapsAsOfEntries, List.append_nil]
    exact below

end ColumnClause

namespace Projection

mutual

/-- The functions of a projection. -/
def functions : Projection → List String
  | .column _ => []
  | .list items => functionsOfItems items
  | .composed parts => functionsOfParts parts

/-- The functions of the items of a list. -/
def functionsOfItems : List Projection → List String
  | [] => []
  | first :: rest => functions first ++ functionsOfItems rest

/-- The functions of the parts of an item, also of those that are not shown. -/
def functionsOfParts : List (ItemPart Projection) → List String
  | [] => []
  | .aliased _ :: rest => functionsOfParts rest
  | .call function argument :: rest => function :: (functions argument ++ functionsOfParts rest)

end

/-- An accepted projection has no directive but `-as`, and none is taken for a function. -/
theorem inPlace_of_read {value : Value} {projection : Projection}
    (returns : (read value).Returns projection) :
    (∀ placed ∈ value.mapsAs .projection, placed.InPlace) ∧
      ∀ name ∈ projection.functions, Directive.isKey name = false := by
  suffices kept : KeptByReading
      (fun value projection => (∀ placed ∈ value.mapsAs .projection, placed.InPlace) ∧
        ∀ name ∈ projection.functions, Directive.isKey name = false)
      (fun given projections =>
        (∀ placed ∈ Value.mapsAsOfItems .projection given, placed.InPlace) ∧
          ∀ name ∈ functionsOfItems projections, Directive.isKey name = false)
      (fun given parts => EntriesInPlace .projection given ∧
        ∀ name ∈ functionsOfParts parts, Directive.isKey name = false) from
    kept.of_read returns
  constructor
  case column => exact fun _ => ⟨nofun, nofun⟩
  case list => exact fun inside => inside
  case map => exact fun inside => ⟨inside.1.map rfl, inside.2⟩
  case noItem => exact ⟨nofun, nofun⟩
  case item =>
    intro value projection rest projections here there
    exact ⟨List.forall_mem_append.mpr ⟨here.1, there.1⟩,
      List.forall_mem_append.mpr ⟨here.2, there.2⟩⟩
  case noEntry => exact ⟨.nil, nofun⟩
  case aliased =>
    intro key name rest parts known _ there
    have allowed : Role.projection.Allows key := Role.allows_of_read known (by decide)
    exact ⟨.cons allowed nofun there.1, there.2⟩
  case call =>
    intro key value argument rest parts known _ here there
    have language : Role.projection.below key = .projection := by
      simp only [Role.below, Directive.find?_of_read known]
    have function := Directive.read_eq_none_iff.mp known
    refine ⟨.cons (Role.allows_of_name known) ?_ there.1, List.forall_mem_cons.mpr
      ⟨function, List.forall_mem_append.mpr ⟨here.2, there.2⟩⟩⟩
    rw [language]
    exact here.1

end Projection

end ParamSql
