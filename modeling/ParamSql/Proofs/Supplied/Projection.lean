import ParamSql.Projection.Render
import ParamSql.Proofs.Projection.Induction
import ParamSql.Proofs.Supplied.Value
import ParamSql.Proofs.Text.Compositional

/-!
# The texts of a projection

What a projection keeps of its description: the names of columns, of functions and of aliases. Every
one of them was given as a name, and what is written consists of them, of their upper-case forms,
and of the default alias.
-/
namespace ParamSql

open Text

namespace Value

mutual

/-- The names in a projection: its strings and the keys that are no directives. -/
def fieldIdentifiers : Value → List String
  | .scalar value => value.text?.toList
  | .list items => fieldIdentifiersOfItems items
  | .map ⟨entries⟩ => fieldIdentifiersOfEntries entries

/-- The names in the items of a list. -/
def fieldIdentifiersOfItems : List Value → List String
  | [] => []
  | item :: rest => fieldIdentifiers item ++ fieldIdentifiersOfItems rest

/-- The names in the entries of a map. -/
def fieldIdentifiersOfEntries : List (String × Value) → List String
  | [] => []
  | (key, value) :: rest =>
    let below := fieldIdentifiers value ++ fieldIdentifiersOfEntries rest
    if Directive.isKey key then below else key :: below

end

mutual

theorem fieldIdentifiers_subset_texts : ∀ value : Value, value.fieldIdentifiers ⊆ value.texts
  | .scalar _ => List.Subset.refl _
  | .list items => fieldIdentifiersOfItems_subset_texts items
  | .map ⟨entries⟩ => fieldIdentifiersOfEntries_subset_texts entries

theorem fieldIdentifiersOfItems_subset_texts : ∀ items : List Value,
    fieldIdentifiersOfItems items ⊆ textsOfItems items
  | [] => List.Subset.refl _
  | item :: rest =>
    append_subset_append (fieldIdentifiers_subset_texts item)
      (fieldIdentifiersOfItems_subset_texts rest)

theorem fieldIdentifiersOfEntries_subset_texts : ∀ entries : List (String × Value),
    fieldIdentifiersOfEntries entries ⊆ textsOfEntries entries
  | [] => List.Subset.refl _
  | (key, value) :: rest => by
    have first := fieldIdentifiers_subset_texts value
    have others := fieldIdentifiersOfEntries_subset_texts rest
    simp only [fieldIdentifiersOfEntries, textsOfEntries]
    split <;> grind

end

end Value

namespace Projection

mutual

/-- The texts of a projection. -/
def names : Projection → List String
  | .column name => [name]
  | .list items => namesOfItems items
  | .composed parts => namesOfParts parts

/-- The texts of the items of a list. -/
def namesOfItems : List Projection → List String
  | [] => []
  | first :: rest => names first ++ namesOfItems rest

/-- The texts of the parts of an item, also of those that are not shown. -/
def namesOfParts : List (ItemPart Projection) → List String
  | [] => []
  | .aliased name :: rest => name :: namesOfParts rest
  | .call function argument :: rest => function :: (names argument ++ namesOfParts rest)

end

/-- Every text of a projection was given as a name, and none of them is empty. -/
theorem names_of_read {value : Value} {projection : Projection}
    (returns : (read value).Returns projection) :
    ∀ name ∈ projection.names, name ∈ value.fieldIdentifiers ∧ name ≠ "" := by
  have kept : KeptByReading
      (fun value projection =>
        ∀ name ∈ projection.names, name ∈ value.fieldIdentifiers ∧ name ≠ "")
      (fun given projections => ∀ name ∈ namesOfItems projections,
        name ∈ Value.fieldIdentifiersOfItems given ∧ name ≠ "")
      (fun given parts => ∀ name ∈ namesOfParts parts,
        name ∈ Value.fieldIdentifiersOfEntries given ∧ name ≠ "") := by
    constructor
    case column =>
      intro name present
      exact List.forall_mem_singleton.mpr ⟨List.mem_singleton_self name, present⟩
    case list => exact fun inside => inside
    case map => exact fun inside => inside
    case noItem => exact nofun
    case item =>
      intro value projection rest projections here there
      refine List.forall_mem_append.mpr ⟨fun name member => ?_, fun name member => ?_⟩
      · exact (here name member).imp_left (List.mem_append_left _)
      · exact (there name member).imp_left (List.mem_append_right _)
    case noEntry => exact nofun
    case aliased =>
      intro key name rest parts known present there
      have dash := (Directive.read_eq_some_iff.mp known).1
      simp only [namesOfParts, Value.fieldIdentifiersOfEntries, dash]
      grind [Value.fieldIdentifiers, Value.string, Scalar.text?]
    case call =>
      intro key value argument rest parts known present here there
      have plain := Directive.read_eq_none_iff.mp known
      simp only [namesOfParts, Value.fieldIdentifiersOfEntries, plain]
      grind
  exact kept.of_read returns

variable {holds : String → Prop}

theorem holds_columnText (kept : Compositional holds) {scope : Scope}
    (base : holds (Name.quote scope.defaultAlias)) {name : String} (spelled : Spelled holds name) :
    holds (columnText scope name) := by
  unfold columnText
  split
  · exact spelled.raw
  · exact Scope.holds_qualify kept base spelled.quoted

theorem holds_callText (kept : Compositional holds) {function argument : String}
    (named : Spelled holds function) (applied : holds argument) :
    holds (callText function argument) := by
  have opening : holds "( " := kept.word (by decide)
  have closing : holds " )" := kept.word (by decide)
  exact kept.append (kept.append (kept.append named.upper opening) applied) closing

mutual

/-- What holds of the texts of a projection holds of what is written, and of the default alias that
is in force behind it. -/
theorem holds_render (kept : Compositional holds) : ∀ {scope : Scope} {projection : Projection},
    holds (Name.quote scope.defaultAlias) → (∀ name ∈ projection.names, Spelled holds name) →
      holds (render scope projection).1 ∧
        holds (Name.quote (render scope projection).2.defaultAlias)
  | scope, .column name, base, spelled =>
    ⟨holds_columnText kept base (spelled name List.mem_cons_self), base⟩
  | scope, .list items, base, spelled => by
    obtain ⟨each, after⟩ := holds_renderItems kept base spelled
    rw [render]
    exact ⟨kept.intercalate (kept.word (by decide)) each, after⟩
  | scope, .composed parts, base, spelled => by
    rw [render]
    exact holds_renderParts kept base kept.empty kept.empty spelled

theorem holds_renderItems (kept : Compositional holds) : ∀ {scope : Scope}
    {items : List Projection}, holds (Name.quote scope.defaultAlias) →
      (∀ name ∈ namesOfItems items, Spelled holds name) →
      (∀ text ∈ (renderItems scope items).1, holds text) ∧
        holds (Name.quote (renderItems scope items).2.defaultAlias)
  | scope, [], base, _ => by simpa [renderItems] using base
  | scope, item :: rest, base, spelled => by
    obtain ⟨here, there⟩ := List.forall_mem_append.mp spelled
    obtain ⟨first, middle⟩ := holds_render kept base here
    obtain ⟨others, after⟩ := holds_renderItems kept middle there
    rw [renderItems]
    exact ⟨List.forall_mem_cons.mpr ⟨first, others⟩, after⟩

theorem holds_renderParts (kept : Compositional holds) : ∀ {scope : Scope} {written : Item}
    {parts : List (ItemPart Projection)}, holds (Name.quote scope.defaultAlias) →
      holds written.expression → holds written.suffix →
      (∀ name ∈ namesOfParts parts, Spelled holds name) →
      holds (renderParts scope written parts).1 ∧
        holds (Name.quote (renderParts scope written parts).2.defaultAlias)
  | scope, written, [], base, expression, suffix, _ => by
    rw [renderParts]
    exact ⟨kept.append expression suffix, base⟩
  | scope, written, .aliased name :: rest, base, expression, suffix, spelled => by
    obtain ⟨here, there⟩ := List.forall_mem_cons.mp spelled
    have mark : holds aliasMark := kept.word (by decide)
    rw [renderParts]
    exact holds_renderParts kept base expression (kept.append mark here.quoted) there
  | scope, written, .call function argument :: rest, base, expression, suffix, spelled => by
    obtain ⟨named, below⟩ := List.forall_mem_cons.mp spelled
    obtain ⟨here, there⟩ := List.forall_mem_append.mp below
    obtain ⟨applied, after⟩ := holds_render kept base here
    rw [renderParts]
    dsimp only
    -- an argument that is a bare alias makes the function a column, any other one its argument
    split
    · exact holds_renderParts kept after (holds_columnText kept after named) applied there
    · exact holds_renderParts kept after (holds_callText kept named applied) suffix there

end

variable {scope : Scope} {spec : Value} {result : String}

theorem holds_compile (kept : Compositional holds) (base : holds (Name.quote scope.defaultAlias))
    (spelled : ∀ name ∈ spec.fieldIdentifiers, name ≠ "" → Spelled holds name)
    (success : (compile scope spec).1 = .ok result) : holds result := by
  unfold compile at success
  cases ran : (read spec).run.run [] with
  | mk outcome declared =>
    rw [ran] at success
    cases outcome with
    | error fault => cases success
    | ok projection =>
      cases success
      refine (holds_render kept base fun name member => ?_).1
      obtain ⟨given, present⟩ := names_of_read ⟨[], declared, ran⟩ name member
      exact spelled name given present

/-- Compiling a projection keeps the default alias. -/
theorem defaultAlias_compile (spec : Value) :
    (compile scope spec).2.defaultAlias = scope.defaultAlias := by
  unfold compile
  exact Scope.defaultAlias_declareAll scope _

end Projection

end ParamSql
