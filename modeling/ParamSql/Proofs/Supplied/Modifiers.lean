import ParamSql.Modifiers.Render
import ParamSql.Proofs.Modifiers.Induction
import ParamSql.Proofs.Supplied.Value
import ParamSql.Proofs.Text.Compositional

/-!
# The texts of modifiers

The clauses that list columns show the names that were given; the clauses that count rows show
nothing but digits.
-/
namespace ParamSql

open Text

/-- The texts that modifiers supply: those of the listed columns. A count supplies none, even when
it is given as a string. -/
def Modifiers.texts (modifiers : Modifiers) : List String :=
  (modifiers.groupBy.map (·.texts)).getD [] ++ (modifiers.orderBy.map (·.texts)).getD []

/-- The columns that modifiers list: the strings in their descriptions. -/
def Modifiers.columns (modifiers : Modifiers) : List String :=
  (modifiers.groupBy.map (·.strings)).getD [] ++ (modifiers.orderBy.map (·.strings)).getD []

theorem Modifiers.columns_subset_texts (modifiers : Modifiers) :
    modifiers.columns ⊆ modifiers.texts := by
  have each (spec : Option Value) :
      (spec.map (·.strings)).getD [] ⊆ (spec.map (·.texts)).getD [] := by
    cases spec with
    | none => exact List.Subset.refl _
    | some spec => exact spec.strings_subset_texts
  exact Value.append_subset_append (each modifiers.groupBy) (each modifiers.orderBy)

variable {holds : String → Prop} {scope : Scope}

theorem ListedColumn.holds_text (kept : Compositional holds)
    (base : holds (Name.quote scope.defaultAlias)) {column : ListedColumn}
    (spelled : Spelled holds column.name) : holds (column.text scope) := by
  have written : ∀ (directions : List Direction) (text : String), holds text →
      holds (directions.foldl (fun written direction => written ++ " " ++ direction.keyword)
        text) := by
    intro directions
    induction directions with
    | nil => exact fun _ given => given
    | cons direction rest ih =>
      intro text given
      have space : holds " " := kept.word (by decide)
      have keyword : holds direction.keyword := kept.word (by cases direction <;> decide)
      exact ih _ (kept.append (kept.append given space) keyword)
  exact written column.directions _ (Scope.holds_column kept base spelled true)

namespace ColumnClause

/-- Every listed column is one of the strings that were given, and has a name. -/
theorem name_of_read {clause : ColumnClause} {spec : Value} {columns : List ListedColumn}
    (success : clause.read spec = .ok columns) :
    ∀ column ∈ columns, column.name ∈ spec.strings ∧ column.name ≠ "" := by
  suffices kept : KeptByReading clause
      (fun spec columns => ∀ column ∈ columns, column.name ∈ spec.strings ∧ column.name ≠ "")
      (fun items columns => ∀ column ∈ columns,
        column.name ∈ Value.stringsOfItems items ∧ column.name ≠ "") from
    kept.of_read success
  constructor
  case column =>
    intro name present
    exact List.forall_mem_singleton.mpr ⟨List.mem_singleton.mpr rfl, present⟩
  case list => exact fun inside => inside
  case noItem => exact nofun
  case item =>
    intro value columns rest others here there
    refine List.forall_mem_append.mpr ⟨fun column listed => ?_, fun column listed => ?_⟩
    · exact (here column listed).imp_left (List.mem_append_left _)
    · exact (there column listed).imp_left (List.mem_append_right _)
  case directed =>
    intro key value columns direction orders spelled below
    refine List.forall_mem_map.mpr fun column listed => ?_
    exact (below column listed).imp_left (List.mem_append_left _)

theorem holds_compile (kept : Compositional holds) (base : holds (Name.quote scope.defaultAlias))
    {clause : ColumnClause} {spec : Value} {result : String}
    (spelled : ∀ name ∈ spec.strings, name ≠ "" → Spelled holds name)
    (success : clause.compile scope spec = .ok result) : holds result := by
  obtain ⟨columns, inside, written⟩ := Outcome.bind_eq_ok.mp success
  unfold text at written
  split at written
  · cases written
  · cases written
    have space : holds " " := kept.word (by decide)
    have keyword : holds clause.keyword := kept.word (by cases clause <;> decide)
    have each : ∀ text ∈ columns.map (·.text scope), holds text := by
      refine List.forall_mem_map.mpr fun column member => ?_
      obtain ⟨given, present⟩ := name_of_read inside column member
      exact ListedColumn.holds_text kept base (spelled _ given present)
    exact kept.append (kept.append (kept.append space keyword) space)
      (kept.intercalate (kept.word (by decide)) each)

end ColumnClause

theorem CountClause.holds_text (kept : Compositional holds) (clause : CountClause) (count : Nat) :
    holds (clause.text count) := by
  have outside {c : Char} (sign : c.isDigit = false) : Avoids c (toString count) := by
    intro member
    rw [Nat.toString_eq_repr, Nat.toList_repr] at member
    exact absurd (Nat.isDigit_of_mem_toDigits (by decide) (by decide) member) (by simp [sign])
  have space : holds " " := kept.word (by decide)
  have keyword : holds clause.keyword := kept.word (by cases clause <;> decide)
  have digits : holds (toString count) := kept.word ⟨outside (by decide), outside (by decide)⟩
  exact kept.append (kept.append (kept.append space keyword) space) digits

namespace Modifiers

theorem holds_optional (kept : Compositional holds) {compile : Value → Except Error String}
    {spec : Option Value} {result : String}
    (each : ∀ value written, spec = some value → compile value = .ok written → holds written)
    (success : optional compile spec = .ok result) : holds result := by
  cases spec with
  | none =>
    cases success
    exact kept.empty
  | some value => exact each value result rfl success

theorem holds_compile (kept : Compositional holds) (base : holds (Name.quote scope.defaultAlias))
    {modifiers : Modifiers} {result : String}
    (spelled : ∀ name ∈ modifiers.columns, name ≠ "" → Spelled holds name)
    (success : modifiers.compile scope = .ok result) : holds result := by
  simp only [compile, Outcome.bind_eq_ok, Outcome.pure_eq, Except.ok.injEq] at success
  obtain ⟨grouped, groupedBy, ordered, orderedBy, limited, limit, skipped, offset, rfl⟩ := success
  obtain ⟨inGroup, inOrder⟩ := List.forall_mem_append.mp spelled
  have counted (clause : CountClause) (value : Value) (written : String)
      (success : clause.compile value = .ok written) : holds written := by
    obtain ⟨count, -, same⟩ := Outcome.bind_eq_ok.mp success
    cases same
    exact clause.holds_text kept count
  have first : holds grouped := by
    refine holds_optional kept (fun value written given => ?_) groupedBy
    exact ColumnClause.holds_compile kept base (by simpa [given] using inGroup)
  have second : holds ordered := by
    refine holds_optional kept (fun value written given => ?_) orderedBy
    exact ColumnClause.holds_compile kept base (by simpa [given] using inOrder)
  have third := holds_optional kept (fun value written _ => counted .limit value written) limit
  have fourth := holds_optional kept (fun value written _ => counted .offset value written) offset
  exact kept.append (kept.append (kept.append first second) third) fourth

/-- Modifiers bring in no question marks. -/
theorem unmarked_compile {modifiers : Modifiers} {result : String}
    (base : Unmarked scope.defaultAlias) (unmarked : ∀ text ∈ modifiers.texts, Unmarked text)
    (success : modifiers.compile scope = .ok result) : Unmarked result :=
  holds_compile compositional_unmarked (unmarked_quote.mpr base) (fun name given _ =>
    spelled_unmarked (unmarked name (modifiers.columns_subset_texts given))) success

end Modifiers

end ParamSql
