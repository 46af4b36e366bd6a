import ParamSql.Proofs.Recasing.Basic
import ParamSql.Proofs.TableRef.Induction
import ParamSql.TableRef.Render

/-!
# Recasing a table reference

The one key of a table with joins is the name of the table, even where it reads as a directive, so
a recasing keeps it. All other keys of a table reference and of its joins can be recased.
-/
namespace ParamSql

open Outcome Value

namespace TableRef

/-- A table with its joins: the form in which a key names a table. -/
def WithJoins (spec : Value) : Prop := ∃ name joins, spec = .map ⟨[(name, joins)]⟩

mutual

/-- The second value is the first, as a table reference, with recased keys. -/
inductive Recased : Value → Value → Prop
  | plain {spec other : Value} (plain : ¬ WithJoins spec) (recased : Value.Recased spec other) :
      Recased spec other
  | withJoins {name : String} {joins others : Value} (below : RecasedJoins joins others) :
      Recased (.map ⟨[(name, joins)]⟩) (.map ⟨[(name, others)]⟩)

/-- One join map or a list of them. -/
inductive RecasedJoins : Value → Value → Prop
  | scalar (value : Scalar) : RecasedJoins (.scalar value) (.scalar value)
  | list {items others : List Value} (inside : RecasedJoinItems items others) :
      RecasedJoins (.list items) (.list others)
  | map {entries others : List (String × Value)} (inside : RecasedJoin entries others) :
      RecasedJoins (.map ⟨entries⟩) (.map ⟨others⟩)

/-- A list of join maps, and of values that are none. -/
inductive RecasedJoinItems : List Value → List Value → Prop
  | nil : RecasedJoinItems [] []
  | join {entries others : List (String × Value)} {rest changed : List Value}
      (first : RecasedJoin entries others) (later : RecasedJoinItems rest changed) :
      RecasedJoinItems (.map ⟨entries⟩ :: rest) (.map ⟨others⟩ :: changed)
  | item {item other : Value} {rest changed : List Value} (form : item.shape ≠ .keyedMap)
      (first : Value.Recased item other) (later : RecasedJoinItems rest changed) :
      RecasedJoinItems (item :: rest) (other :: changed)

/-- The entries of a join map: the value below the directive of a target is a table reference. -/
inductive RecasedJoin : List (String × Value) → List (String × Value) → Prop
  | nil : RecasedJoin [] []
  | target {key respelled : String} {kind : JoinKind} {value changed : Value}
      {rest others : List (String × Value)}
      (known : Directive.read key = .ok (some kind.directive))
      (spelled : Directive.Recased key respelled) (first : Recased value changed)
      (later : RecasedJoin rest others) :
      RecasedJoin ((key, value) :: rest) ((respelled, changed) :: others)
  | entry {key respelled : String} {value changed : Value} {rest others : List (String × Value)}
      (other : ∀ kind : JoinKind, Directive.read key ≠ .ok (some kind.directive))
      (spelled : Directive.Recased key respelled) (first : Value.Recased value changed)
      (later : RecasedJoin rest others) :
      RecasedJoin ((key, value) :: rest) ((respelled, changed) :: others)

end

end TableRef

theorem JoinCondition.alike_read {spec other : Value} (recased : spec.Recased other) :
    Alike Eq (read spec) (read other) := by
  refine (recased.requireList _).bind fun items others listed => ?_
  match listed with
  | .nil => exact .refl _
  | .cons _ .nil => exact .refl _
  | .cons left (.cons right .nil) =>
    refine (left.requireString _).bind fun column _ same => ?_
    cases same
    refine (Alike.refl (Name.require .joinColumn column)).bind fun column _ same => ?_
    cases same
    exact (right.requireString _).bind_eq _
  | .cons _ (.cons _ (.cons _ later)) => exact .error rfl

namespace TableRef

/-- A value that is no table with joins is a string, a pair of strings, or a fault. -/
theorem alike_read_plain {spec other : Value} (plain : ¬ WithJoins spec)
    (recased : Value.Recased spec other) : Alike Eq (read spec) (read other) := by
  match recased with
  | .scalar value => exact .refl _
  | .list .nil => exact .refl _
  | .list (.cons _ .nil) => exact .refl _
  | .list (.cons entity (.cons name .nil)) =>
    refine (entity.requireString _).bind fun table _ same => ?_
    cases same
    refine (Alike.refl (Name.require .table table)).bind fun table _ same => ?_
    cases same
    exact (name.requireString _).bind_eq _
  | .list (.cons _ (.cons _ (.cons _ _))) => exact .error rfl
  | .map .nil => exact .refl _
  | .map (.cons _ _ .nil) => exact absurd ⟨_, _, rfl⟩ plain
  | .map (.cons _ _ (.cons _ _ _)) => exact .error rfl

mutual

/-- A recased table reference describes the same reference. -/
theorem alike_read : ∀ {spec other : Value}, Recased spec other → Alike Eq (read spec) (read other)
  | _, _, .plain plain recased => alike_read_plain plain recased
  | _, _, @Recased.withJoins name joins others below => by
    refine (Alike.refl (Name.require .table name)).bind fun table _ same => ?_
    cases same
    exact (alike_readJoins below).bind_eq _

theorem alike_readJoins : ∀ {joins others : Value}, RecasedJoins joins others →
    Alike Eq (readJoins joins) (readJoins others)
  | _, _, .scalar value => .refl _
  | _, _, .list inside => alike_readJoinItems inside
  | _, _, .map inside => (alike_readJoin .empty inside).bind_eq _

theorem alike_readJoinItems : ∀ {items others : List Value}, RecasedJoinItems items others →
    Alike Eq (readJoinItems items) (readJoinItems others)
  | _, _, .nil => .refl _
  | _, _, .join first later => by
    refine (alike_readJoin .empty first).bind fun join _ same => ?_
    cases same
    exact (alike_readJoinItems later).bind_eq _
  | _, _, .item form first later => by
    cases first with
    | scalar value => exact .refl _
    | list => exact .error rfl
    | map => exact absurd rfl form

theorem alike_readJoin (join : Join TableRef) : ∀ {entries others : List (String × Value)},
    RecasedJoin entries others → Alike Eq (readJoin join entries) (readJoin join others)
  | _, _, .nil => .refl _
  | _, _, @RecasedJoin.target key respelled kind value changed rest others known spelled first
      later => by
    simp only [readJoin, spelled.read_eq, known]
    cases kind with
    | inner | left =>
      refine (alike_read first).bind fun target _ same => ?_
      cases same
      exact alike_readJoin _ later
  | _, _, @RecasedJoin.entry key respelled value changed rest others other spelled first later => by
    simp only [readJoin, spelled.read_eq]
    cases known : Directive.read key with
    | error fault => exact .refl _
    | ok directive =>
      cases directive with
      | none =>
        obtain rfl := spelled.eq_of_name known
        exact .refl _
      | some directive =>
        cases directive with
        | inner => exact absurd known (other .inner)
        | left => exact absurd known (other .left)
        | on =>
          refine (JoinCondition.alike_read first).bind fun condition _ same => ?_
          cases same
          exact alike_readJoin _ later
        | _ => exact .refl _

end

end TableRef

end ParamSql
