import ParamSql.Proofs.Outcome
import ParamSql.TableRef.Read

/-!
# Induction over the reading of a table reference

Reading descends from a table to its joins, and from a join to its target, which is a table again.
What its rules keep holds of every description that is accepted and of the reference that is read
from it; the reading is taken apart here once.
-/
namespace ParamSql

/-- The directive that introduces a target of the kind. -/
def JoinKind.directive : JoinKind → Directive
  | .inner => .inner
  | .left => .left

/-- A condition is read from a pair of strings, of which the first is not empty. -/
theorem JoinCondition.read_eq_ok_iff {value : Value} {condition : JoinCondition} :
    read value = .ok condition ↔
      value = .list [.string condition.column, .string condition.expression] ∧
        condition.column ≠ "" := by
  constructor
  · intro success
    obtain ⟨items, listed, given⟩ := Outcome.bind_eq_ok.mp success
    obtain rfl := Value.requireList_eq_ok_iff.mp listed
    split at given
    · simp only [Outcome.bind_eq_ok, Value.requireString_eq_ok_iff, Name.require_eq_ok_iff,
        Outcome.pure_eq, Except.ok.injEq] at given
      obtain ⟨column, rfl, _, ⟨present, rfl⟩, expression, rfl, rfl⟩ := given
      exact ⟨rfl, present⟩
    · cases given
  · rintro ⟨rfl, present⟩
    have required : Name.require .joinColumn condition.column = .ok condition.column :=
      Name.require_of_ne present
    simp [read, Value.requireList, Value.string, Value.requireString, required]

namespace TableRef

/-- An entry of a join map is read when it is a target or a condition, which then replaces the one
that the join had. -/
theorem readJoin_cons_eq_ok_iff {key : String} {value : Value} {rest : List (String × Value)}
    {before final : Join TableRef} :
    readJoin before ((key, value) :: rest) = .ok final ↔
      (∃ kind reference, Directive.read key = .ok (some (JoinKind.directive kind)) ∧
        read value = .ok reference ∧
        readJoin ⟨some (kind, reference), before.condition⟩ rest = .ok final) ∨
      ∃ condition, Directive.read key = .ok (some .on) ∧ JoinCondition.read value = .ok condition ∧
        readJoin ⟨before.target, some condition⟩ rest = .ok final := by
  constructor
  · intro success
    simp only [readJoin, Outcome.bind_eq_ok] at success
    obtain ⟨directive, known, chosen⟩ := success
    cases directive with
    | none => cases chosen
    | some directive =>
      cases directive with
      | inner =>
        obtain ⟨reference, inside, later⟩ := Outcome.bind_eq_ok.mp chosen
        exact .inl ⟨.inner, reference, known, inside, later⟩
      | left =>
        obtain ⟨reference, inside, later⟩ := Outcome.bind_eq_ok.mp chosen
        exact .inl ⟨.left, reference, known, inside, later⟩
      | on =>
        obtain ⟨condition, inside, later⟩ := Outcome.bind_eq_ok.mp chosen
        exact .inr ⟨condition, known, inside, later⟩
      | _ => cases chosen
  · rintro (⟨kind, reference, known, inside, later⟩ | ⟨condition, known, inside, later⟩)
    · cases kind <;> simpa [readJoin, known, JoinKind.directive, inside] using later
    · simpa [readJoin, known, inside] using later

/-- Properties of whole descriptions, of one join map or a list of them, of the items of such a list
and of the entries of a join map on top of what a join had before them, each with what is read,
which every rule of reading keeps. -/
structure KeptByReading (whole : Value → TableRef → Prop)
    (joins : Value → List (Join TableRef) → Prop)
    (items : List Value → List (Join TableRef) → Prop)
    (entries : Join TableRef → List (String × Value) → Join TableRef → Prop) : Prop where
  base : ∀ {table}, table ≠ "" → whole (.string table) (.base table)
  aliased : ∀ {table name}, table ≠ "" → name ≠ "" →
    whole (.list [.string table, .string name]) (.aliased table name)
  joined : ∀ {table given joined}, table ≠ "" → joins given joined →
    whole (.map ⟨[(table, given)]⟩) (.joined table joined)
  one : ∀ {given join}, entries .empty given join → joins (.map ⟨given⟩) [join]
  list : ∀ {given joined}, items given joined → joins (.list given) joined
  noItem : items [] []
  item : ∀ {given join rest joined}, entries .empty given join → items rest joined →
    items (.map ⟨given⟩ :: rest) (join :: joined)
  noEntry : ∀ join, entries join [] join
  target : ∀ kind {key value reference condition before rest final},
    Directive.read key = .ok (some (JoinKind.directive kind)) → whole value reference →
    entries ⟨some (kind, reference), condition⟩ rest final →
    entries ⟨before, condition⟩ ((key, value) :: rest) final
  condition : ∀ {key column expression target before rest final},
    Directive.read key = .ok (some .on) → column ≠ "" →
    entries ⟨target, some ⟨column, expression⟩⟩ rest final →
    entries ⟨target, before⟩ ((key, .list [.string column, .string expression]) :: rest) final

namespace KeptByReading

variable {whole : Value → TableRef → Prop} {joins : Value → List (Join TableRef) → Prop}
  {items : List Value → List (Join TableRef) → Prop}
  {entries : Join TableRef → List (String × Value) → Join TableRef → Prop}

mutual

theorem of_read (kept : KeptByReading whole joins items entries) :
    ∀ {spec : Value} {reference : TableRef}, read spec = .ok reference → whole spec reference
  | .scalar value, _, success => by
    simp only [read, Outcome.bind_eq_ok, Value.requireString_eq_ok_iff, Name.require_eq_ok_iff,
      Outcome.pure_eq, Except.ok.injEq] at success
    obtain ⟨table, text, _, ⟨present, rfl⟩, rfl⟩ := success
    rw [text]
    exact kept.base present
  | .list [], _, success => nomatch success
  | .list [_], _, success => nomatch success
  | .list [entity, name], _, success => by
    simp only [read, Outcome.bind_eq_ok, Value.requireString_eq_ok_iff, Name.require_eq_ok_iff,
      Outcome.pure_eq, Except.ok.injEq] at success
    obtain ⟨table, rfl, _, ⟨tablePresent, rfl⟩, name, rfl, _, ⟨aliasPresent, rfl⟩, rfl⟩ := success
    exact kept.aliased tablePresent aliasPresent
  | .list (_ :: _ :: _ :: _), _, success => nomatch success
  | .map ⟨[]⟩, _, success => nomatch success
  | .map ⟨[(table, given)]⟩, _, success => by
    simp only [read, Outcome.bind_eq_ok, Name.require_eq_ok_iff, Outcome.pure_eq,
      Except.ok.injEq] at success
    obtain ⟨_, ⟨present, rfl⟩, joined, inside, rfl⟩ := success
    exact kept.joined present (kept.of_readJoins inside)
  | .map ⟨_ :: _ :: _⟩, _, success => nomatch success

theorem of_readJoins (kept : KeptByReading whole joins items entries) :
    ∀ {spec : Value} {joined : List (Join TableRef)},
      readJoins spec = .ok joined → joins spec joined
  | .scalar _, _, success => nomatch success
  | .list given, _, success => kept.list (kept.of_readJoinItems success)
  | .map ⟨given⟩, _, success => by
    obtain ⟨join, inside, same⟩ := Outcome.bind_eq_ok.mp success
    cases same
    exact kept.one (kept.of_readJoin inside)

theorem of_readJoinItems (kept : KeptByReading whole joins items entries) :
    ∀ {given : List Value} {joined : List (Join TableRef)},
      readJoinItems given = .ok joined → items given joined
  | [], _, success => by
    cases success
    exact kept.noItem
  | .map ⟨given⟩ :: rest, _, success => by
    simp only [readJoinItems, Outcome.bind_eq_ok, Outcome.pure_eq, Except.ok.injEq] at success
    obtain ⟨join, inside, joined, later, rfl⟩ := success
    exact kept.item (kept.of_readJoin inside) (kept.of_readJoinItems later)
  | .scalar _ :: _, _, success => nomatch success
  | .list _ :: _, _, success => nomatch success

theorem of_readJoin (kept : KeptByReading whole joins items entries) :
    ∀ {given : List (String × Value)} {join final : Join TableRef},
      readJoin join given = .ok final → entries join given final
  | [], _, _, success => by
    cases success
    exact kept.noEntry _
  | (key, value) :: rest, _, _, success => by
    obtain ⟨kind, reference, known, inside, later⟩ | ⟨condition, known, inside, later⟩ :=
      readJoin_cons_eq_ok_iff.mp success
    · exact kept.target kind known (kept.of_read inside) (kept.of_readJoin later)
    · obtain ⟨rfl, present⟩ := JoinCondition.read_eq_ok_iff.mp inside
      exact kept.condition known present (kept.of_readJoin later)

end

end KeptByReading

end TableRef

end ParamSql
