import ParamSql.Modifiers.Columns
import ParamSql.Proofs.Recasing.Basic

/-!
# Induction over the reading of column lists

Reading descends through the lists and the ordering maps of a description. What its rules keep holds
of every description that is accepted and of the columns that are read from it; the reading is taken
apart here once.
-/
namespace ParamSql

namespace Direction

/-- The directive that sets the direction. -/
def directive : Direction → Directive
  | .ascending => .asc
  | .descending => .desc

/-- A key is read as a direction when it is a spelling of its directive. -/
theorem read_eq_ok_iff {key : String} {direction : Direction} :
    read key = .ok direction ↔ direction.directive.SpelledBy key := by
  rw [← Directive.read_eq_some_iff_spelledBy]
  constructor
  · intro success
    obtain ⟨found, known, chosen⟩ := Outcome.bind_eq_ok.mp success
    rw [known]
    cases found with
    | none => cases chosen
    | some found => cases found <;> cases chosen <;> rfl
  · intro known
    rw [read, known]
    cases direction <;> rfl

end Direction

namespace ColumnClause

/-- Properties of whole descriptions and of the items of their lists, each with the columns that are
read from them, which every rule of reading keeps. -/
structure KeptByReading (clause : ColumnClause) (whole : Value → List ListedColumn → Prop)
    (items : List Value → List ListedColumn → Prop) : Prop where
  column : ∀ {name}, name ≠ "" → whole (.string name) [⟨name, []⟩]
  list : ∀ {given columns}, items given columns → whole (.list given) columns
  directed : ∀ {key value columns} direction, clause = .orderBy →
    (Direction.directive direction).SpelledBy key → whole value columns →
    whole (.map ⟨[(key, value)]⟩) (columns.map (·.directed direction))
  noItem : items [] []
  item : ∀ {value columns rest others}, whole value columns → items rest others →
    items (value :: rest) (columns ++ others)

namespace KeptByReading

variable {clause : ColumnClause} {whole : Value → List ListedColumn → Prop}
  {items : List Value → List ListedColumn → Prop}

mutual

theorem of_read (kept : KeptByReading clause whole items) : ∀ {spec : Value}
    {columns : List ListedColumn}, clause.read spec = .ok columns → whole spec columns
  | .scalar value, _, success => by
    simp only [read, Outcome.bind_eq_ok, Value.requireString_eq_ok_iff, Name.require_eq_ok_iff,
      Outcome.pure_eq, Except.ok.injEq] at success
    obtain ⟨name, text, _, ⟨present, rfl⟩, rfl⟩ := success
    rw [text]
    exact kept.column present
  | .list _, _, success => kept.list (kept.of_readItems success)
  | .map ⟨entries⟩, columns, success => by
    have orders : clause = .orderBy := by
      cases clause with
      | groupBy => cases success
      | orderBy => rfl
    have inside : clause.readDirected entries = .ok columns := by
      rw [orders] at success ⊢
      exact success
    exact kept.of_readDirected orders inside

theorem of_readItems (kept : KeptByReading clause whole items) : ∀ {given : List Value}
    {columns : List ListedColumn}, clause.readItems given = .ok columns → items given columns
  | [], _, success => by
    cases success
    exact kept.noItem
  | item :: rest, _, success => by
    simp only [readItems, Outcome.bind_eq_ok, Outcome.pure_eq, Except.ok.injEq] at success
    obtain ⟨columns, inside, others, later, rfl⟩ := success
    exact kept.item (kept.of_read inside) (kept.of_readItems later)

theorem of_readDirected (kept : KeptByReading clause whole items) (orders : clause = .orderBy) :
    ∀ {entries : List (String × Value)} {columns : List ListedColumn},
      clause.readDirected entries = .ok columns → whole (.map ⟨entries⟩) columns
  | [], _, success => nomatch success
  | [(key, value)], _, success => by
    simp only [readDirected, Outcome.bind_eq_ok, Outcome.pure_eq, Except.ok.injEq] at success
    obtain ⟨direction, known, columns, inside, rfl⟩ := success
    exact kept.directed direction orders (Direction.read_eq_ok_iff.mp known) (kept.of_read inside)
  | _ :: _ :: _, _, success => nomatch success

end

end KeptByReading

end ColumnClause

end ParamSql
