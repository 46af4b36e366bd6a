import ParamSql.Proofs.Outcome
import ParamSql.SearchCondition.Read

/-!
# What a column is compared with

The four forms in which a filter gives the comparison of a column, and that reading accepts
exactly these: a scalar, a list under `-in`, a pair under `-between`, and a scalar under an operator
of the caller.
-/
namespace ParamSql

/-- A value that a column can be compared with. -/
def Scalar.Comparable (scalar : Scalar) : Prop :=
  scalar.kind = .integer ∨ scalar.kind = .string

namespace Comparison

theorem comparable_eq_ok_iff {column : String} {value result : Scalar} :
    comparable column value = .ok result ↔ value.Comparable ∧ result = value := by
  cases value <;> simp [comparable, Scalar.Comparable, Scalar.kind, eq_comm]

theorem comparables_eq_ok_iff {column : String} {items : List Value} {values : List Scalar} :
    comparables column items = .ok values ↔
      items = values.map .scalar ∧ ∀ value ∈ values, value.Comparable := by
  induction items generalizing values with
  | nil => cases values <;> simp [comparables]
  | cons item rest ih =>
    simp only [comparables] at ih
    simp only [comparables, List.mapM_cons, Outcome.bind_eq_ok, comparable_eq_ok_iff, ih,
      Outcome.pure_eq, Except.ok.injEq]
    constructor
    · rintro ⟨_, ⟨scalar, required, comparable, rfl⟩, values, ⟨rfl, each⟩, rfl⟩
      cases item with
      | scalar value =>
        cases required
        exact ⟨rfl, List.forall_mem_cons.mpr ⟨comparable, each⟩⟩
      | list items => cases required
      | map fields => cases required
    · rintro ⟨same, each⟩
      cases values with
      | nil => cases same
      | cons value values =>
        cases same
        obtain ⟨first, others⟩ := List.forall_mem_cons.mp each
        exact ⟨value, ⟨value, rfl, first, rfl⟩, values, ⟨rfl, others⟩, rfl⟩

/-- The description gives the comparison. -/
inductive Describes : Value → Comparison → Prop
  | equality {value : Scalar} (comparable : value.Comparable) :
      Describes (.scalar value) ⟨.equals, [value]⟩
  | membership {key : String} {values : List Scalar} (known : Directive.read key = .ok (some .in))
      (comparable : ∀ value ∈ values, value.Comparable) (present : values ≠ []) :
      Describes (.map ⟨[(key, .list (values.map .scalar))]⟩) ⟨.membership, values⟩
  | range {key : String} {values : List Scalar}
      (known : Directive.read key = .ok (some .between))
      (comparable : ∀ value ∈ values, value.Comparable) (two : values.length = 2) :
      Describes (.map ⟨[(key, .list (values.map .scalar))]⟩) ⟨.range, values⟩
  | raw {operator : String} {value : Scalar} (known : Directive.read operator = .ok none)
      (comparable : value.Comparable) :
      Describes (.map ⟨[(operator, .scalar value)]⟩) ⟨⟨operator⟩, [value]⟩

/-- Reading accepts exactly the descriptions of a comparison, whatever the column. -/
theorem read_eq_ok_iff {column : String} {value : Value} {comparison : Comparison} :
    read column value = .ok comparison ↔ Describes value comparison := by
  constructor
  · intro success
    cases value with
    | scalar value =>
      obtain ⟨scalar, compared, same⟩ := Outcome.bind_eq_ok.mp success
      obtain ⟨comparable, rfl⟩ := comparable_eq_ok_iff.mp compared
      cases same
      exact .equality comparable
    | list items => cases success
    | map fields =>
      simp only [read, Outcome.bind_eq_ok, KeyedMap.requireSingle_eq_ok_iff, Prod.exists] at success
      obtain ⟨key, operand, rfl, directive, known, chosen⟩ := success
      cases directive with
      | none =>
        simp only [Outcome.bind_eq_ok, Value.requireScalar_eq_ok_iff, comparable_eq_ok_iff,
          Outcome.pure_eq, Except.ok.injEq] at chosen
        obtain ⟨value, rfl, _, ⟨comparable, rfl⟩, rfl⟩ := chosen
        exact .raw known comparable
      | some directive =>
        cases directive with
        | «in» =>
          simp only [Outcome.bind_eq_ok, Value.requireList_eq_ok_iff, comparables_eq_ok_iff]
            at chosen
          obtain ⟨_, rfl, values, ⟨rfl, comparable⟩, counted⟩ := chosen
          split at counted
          · cases counted
          · next present =>
            cases counted
            exact .membership known comparable (by simpa using present)
        | between =>
          simp only [Outcome.bind_eq_ok, Value.requireList_eq_ok_iff, comparables_eq_ok_iff]
            at chosen
          obtain ⟨_, rfl, values, ⟨rfl, comparable⟩, counted⟩ := chosen
          split at counted
          · next two =>
            cases counted
            exact .range known comparable two
          · cases counted
        | _ => cases chosen
  · intro described
    cases described with
    | equality comparable =>
      simp [read, comparable_eq_ok_iff.mpr ⟨comparable, rfl⟩]
    | membership known comparable present =>
      simp [read, KeyedMap.requireSingle, known, Value.requireList, present,
        comparables_eq_ok_iff.mpr ⟨rfl, comparable⟩]
    | range known comparable two =>
      simp [read, KeyedMap.requireSingle, known, Value.requireList, two,
        comparables_eq_ok_iff.mpr ⟨rfl, comparable⟩]
    | raw known comparable =>
      simp [read, KeyedMap.requireSingle, known, Value.requireScalar,
        comparable_eq_ok_iff.mpr ⟨comparable, rfl⟩]

end Comparison

end ParamSql
