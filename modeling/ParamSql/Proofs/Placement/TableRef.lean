import ParamSql.Proofs.Placement.Basic
import ParamSql.Proofs.Supplied.Value
import ParamSql.Proofs.TableRef.Induction

/-!
# Keys of tables and joins

The keys of a join are looked at like all others. The key of a table with joins is not: whatever it
is, it becomes the name of the table. These keys are collected here, so that it can be said that
they are all that goes by unseen.
-/
namespace ParamSql

/-- The map is in place, or it is a table with joins, which has one key with some name. -/
def PlacedMap.Accepted (placed : PlacedMap) : Prop :=
  if placed.role = .table then ∃ name, placed.fields.keys = [name] ∧ name ≠ "" else placed.InPlace

/-- The keys of the tables with joins. -/
def tableKeys (maps : List PlacedMap) : List String :=
  maps.flatMap fun placed => if placed.role = .table then placed.fields.keys else []

theorem tableKeys_append (first second : List PlacedMap) :
    tableKeys (first ++ second) = tableKeys first ++ tableKeys second :=
  List.flatMap_append

theorem mem_tableKeys_iff {maps : List PlacedMap} {key : String} :
    key ∈ tableKeys maps ↔ ∃ placed ∈ maps, placed.role = .table ∧ key ∈ placed.fields.keys := by
  unfold tableKeys
  rw [List.mem_flatMap]
  refine exists_congr fun placed => and_congr_right fun _ => ?_
  by_cases table : placed.role = .table
  · simp [table]
  · simp [table]

/-- Accepted maps are in place when no table has a key that begins with a dash. -/
theorem inPlace_iff_of_accepted {maps : List PlacedMap}
    (accepted : ∀ placed ∈ maps, placed.Accepted) :
    (∀ placed ∈ maps, placed.InPlace) ↔
      ∀ key ∈ tableKeys maps, Directive.isKey key = false := by
  constructor
  · intro inPlace key member
    obtain ⟨placed, listed, table, keyed⟩ := mem_tableKeys_iff.mp member
    by_contra dash
    obtain ⟨directive, known, -⟩ :=
      (inPlace placed listed).allowed key keyed (Bool.not_eq_false _ ▸ dash)
    rw [table] at known
    exact List.not_mem_nil known
  · intro names placed listed
    have one := accepted placed listed
    unfold PlacedMap.Accepted at one
    split at one
    · next table =>
      constructor
      · intro key keyed dash
        rw [names key (mem_tableKeys_iff.mpr ⟨placed, listed, table, keyed⟩)] at dash
        cases dash
      · intro exclusive
        rw [table] at exclusive
        cases exclusive
    · exact one

/-- The keys of the tables with joins are all that escapes notice in the maps of a description:
every other map is in place, and these are the only keys that are taken for names of tables. -/
structure InPlaceBesideTables (maps : List PlacedMap) (heads : List String) : Prop where
  others : ∀ placed ∈ maps, placed.role ≠ .table → placed.InPlace
  tables : ∀ placed ∈ maps, placed.role = .table →
    ∃ name, placed.fields.keys = [name] ∧ name ≠ ""
  inPlace_iff : (∀ placed ∈ maps, placed.InPlace) ↔
    ∀ key ∈ tableKeys maps, Directive.isKey key = false
  heads_subset : heads ⊆ tableKeys maps

theorem inPlaceBesideTables_of_accepted {maps : List PlacedMap} {heads : List String}
    (accepted : ∀ placed ∈ maps, placed.Accepted) (keyed : heads ⊆ tableKeys maps) :
    InPlaceBesideTables maps heads := by
  refine ⟨?_, ?_, inPlace_iff_of_accepted accepted, keyed⟩
  · intro placed listed other
    have one := accepted placed listed
    rwa [PlacedMap.Accepted, if_neg other] at one
  · intro placed listed table
    have one := accepted placed listed
    rwa [PlacedMap.Accepted, if_pos table] at one

namespace TableRef

mutual

/-- The names of tables with joins in a reference. -/
def heads : TableRef → List String
  | .base _ => []
  | .aliased _ _ => []
  | .joined table joins => table :: headsOfJoins joins

/-- The names of tables with joins in joins. -/
def headsOfJoins : List (Join TableRef) → List String
  | [] => []
  | ⟨target, _⟩ :: rest => headsOfTarget target ++ headsOfJoins rest

/-- The names of tables with joins in the target of a join. -/
def headsOfTarget : Option (JoinKind × TableRef) → List String
  | none => []
  | some (_, target) => heads target

end

theorem accepted_join {entries : List (String × Value)}
    (allowed : ∀ key ∈ entries.map Prod.fst, Role.join.Allows key) :
    PlacedMap.Accepted ⟨.join, ⟨entries⟩⟩ := by
  have apart : Role.join ≠ .table := by decide
  rw [PlacedMap.Accepted, if_neg apart]
  exact ⟨allowed, nofun⟩

/-- In an accepted description all joins are in place, and the keys of the tables with joins are
taken for names. -/
theorem keptByReading_accepted : KeptByReading
    (fun value reference => (∀ placed ∈ value.mapsAs .table, placed.Accepted) ∧
      reference.heads ⊆ tableKeys (value.mapsAs .table))
    (fun value joins => (∀ placed ∈ value.mapsAs .join, placed.Accepted) ∧
      headsOfJoins joins ⊆ tableKeys (value.mapsAs .join))
    (fun given joins => (∀ placed ∈ Value.mapsAsOfItems .join given, placed.Accepted) ∧
      headsOfJoins joins ⊆ tableKeys (Value.mapsAsOfItems .join given))
    (fun join given final => (∀ key ∈ given.map Prod.fst, Role.join.Allows key) ∧
      (∀ placed ∈ Value.mapsAsOfEntries .join given, placed.Accepted) ∧
      headsOfTarget final.target ⊆
        headsOfTarget join.target ++ tableKeys (Value.mapsAsOfEntries .join given)) := by
  constructor
  case base => exact fun _ => ⟨nofun, List.nil_subset _⟩
  case aliased => exact fun _ _ => ⟨nofun, List.nil_subset _⟩
  case joined =>
    intro table given joins present below
    rw [Value.mapsAs, Value.mapsAsOfEntries, Value.mapsAsOfEntries, List.append_nil]
    exact ⟨List.forall_mem_cons.mpr ⟨⟨table, rfl, present⟩, below.1⟩,
      List.cons_subset_cons table below.2⟩
  case one =>
    intro given join inside
    obtain ⟨allowed, below, heads⟩ := inside
    refine ⟨List.forall_mem_cons.mpr ⟨accepted_join allowed, below⟩, ?_⟩
    rw [headsOfJoins, headsOfJoins, List.append_nil]
    exact heads
  case list => exact fun inside => inside
  case noItem => exact ⟨nofun, List.nil_subset _⟩
  case item =>
    intro given join rest joins inside later
    obtain ⟨allowed, below, heads⟩ := inside
    rw [Value.mapsAsOfItems, Value.mapsAs, tableKeys_append]
    refine ⟨List.forall_mem_append.mpr
      ⟨List.forall_mem_cons.mpr ⟨accepted_join allowed, below⟩, later.1⟩, ?_⟩
    rw [headsOfJoins]
    exact Value.append_subset_append heads later.2
  case noEntry => exact fun join => ⟨nofun, nofun, List.subset_append_left _ _⟩
  -- The target of a join is the one that it had before its entries, or comes from one of them.
  case target =>
    intro kind key value reference condition before rest final known here later
    obtain ⟨allowed, there, others⟩ := later
    have listed : kind.directive ∈ Role.join.directives := by cases kind <;> decide
    have language : Role.join.below key = .table := by
      simp only [Role.below, Directive.find?_of_read known]
      cases kind <;> rfl
    rw [Value.mapsAsOfEntries, language, tableKeys_append]
    refine ⟨List.forall_mem_cons.mpr ⟨Role.allows_of_read known listed, allowed⟩,
      List.forall_mem_append.mpr ⟨here.1, there⟩, List.Subset.trans others ?_⟩
    refine List.append_subset.mpr ⟨?_, ?_⟩
    · exact List.subset_append_of_subset_right _ (List.subset_append_of_subset_left _ here.2)
    · exact List.subset_append_of_subset_right _ (List.subset_append_right _ _)
  case condition =>
    intro key column expression target before rest final known _ later
    obtain ⟨allowed, there, others⟩ := later
    exact ⟨List.forall_mem_cons.mpr ⟨Role.allows_of_read known (by decide), allowed⟩, there, others⟩

theorem accepted_of_read {value : Value} {reference : TableRef}
    (success : read value = .ok reference) :
    (∀ placed ∈ value.mapsAs .table, placed.Accepted) ∧
      reference.heads ⊆ tableKeys (value.mapsAs .table) :=
  keptByReading_accepted.of_read success

theorem accepted_of_readJoins {value : Value} {joins : List (Join TableRef)}
    (success : readJoins value = .ok joins) :
    (∀ placed ∈ value.mapsAs .join, placed.Accepted) ∧
      headsOfJoins joins ⊆ tableKeys (value.mapsAs .join) :=
  keptByReading_accepted.of_readJoins success

end TableRef

end ParamSql
