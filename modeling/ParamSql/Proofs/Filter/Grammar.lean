import ParamSql.Proofs.Filter.Reading
import ParamSql.Proofs.Recasing.Basic
import ParamSql.SearchCondition.Render

/-!
# The grammar of filters

Which descriptions are filters, said of the descriptions alone: lists of column names and of maps,
and maps whose entries are lists below a connective or columns with what they are compared with.
Exactly these compile, in every scope; the scope, the prefixing of columns and the connective in
force have an influence on the text only.
-/
namespace ParamSql

namespace Filter

/-- What a column can be compared with: an integer or a string, a list of some of these under `-in`,
two of them under `-between`, or one of them under an operator that is no directive. -/
inductive IsComparison : Value → Prop
  | equality {value : Scalar} (comparable : value.Comparable) : IsComparison (.scalar value)
  | membership {key : String} {values : List Scalar} (spelled : Directive.in.SpelledBy key)
      (present : values ≠ []) (comparable : ∀ value ∈ values, value.Comparable) :
      IsComparison (.map ⟨[(key, .list (values.map .scalar))]⟩)
  | range {key : String} {low high : Scalar} (spelled : Directive.between.SpelledBy key)
      (lowest : low.Comparable) (highest : high.Comparable) :
      IsComparison (.map ⟨[(key, .list [.scalar low, .scalar high])]⟩)
  | raw {operator : String} {value : Scalar} (plain : Directive.isKey operator = false)
      (comparable : value.Comparable) : IsComparison (.map ⟨[(operator, .scalar value)]⟩)

mutual

/-- A filter: a list of items or a map of entries, both of any length. -/
inductive IsFilter : Value → Prop
  | list {items : List Value} (each : ∀ item ∈ items, IsItem item) : IsFilter (.list items)
  | map {entries : List (String × Value)} (each : ∀ entry ∈ entries, IsEntry entry.1 entry.2) :
      IsFilter (.map ⟨entries⟩)

/-- An item of a list: a column name or a map. -/
inductive IsItem : Value → Prop
  | column {name : String} (present : name ≠ "") : IsItem (.string name)
  | map {fields : KeyedMap Value} (inside : IsFilter (.map fields)) : IsItem (.map fields)

/-- An entry of a map: a list below a connective, or a column with what it is compared with. -/
inductive IsEntry : String → Value → Prop
  | group {key : String} {connective : Connective} {items : List Value}
      (spelled : connective.directive.SpelledBy key) (inside : IsFilter (.list items)) :
      IsEntry key (.list items)
  | column {key : String} {value : Value} (present : key ≠ "") (plain : Directive.isKey key = false)
      (compared : IsComparison value) : IsEntry key value

end

/-- What a column can be compared with is what describes a comparison. -/
theorem isComparison_iff {value : Value} :
    IsComparison value ↔ ∃ comparison, Comparison.Describes value comparison := by
  constructor
  · intro compared
    cases compared with
    | equality comparable => exact ⟨_, .equality comparable⟩
    | membership spelled present comparable =>
      exact ⟨_, .membership (Directive.read_eq_some_iff_spelledBy.mpr spelled) comparable present⟩
    | @range key low high spelled lowest highest =>
      have known := Directive.read_eq_some_iff_spelledBy.mpr spelled
      have comparable : ∀ value ∈ [low, high], value.Comparable := by simp [lowest, highest]
      exact ⟨_, .range known comparable rfl⟩
    | raw plain comparable => exact ⟨_, .raw (Directive.read_eq_none_iff.mpr plain) comparable⟩
  · rintro ⟨comparison, described⟩
    cases described with
    | equality comparable => exact .equality comparable
    | membership known comparable present =>
      exact .membership (Directive.read_eq_some_iff_spelledBy.mp known) present comparable
    | range known comparable two =>
      obtain ⟨low, high, rfl⟩ := List.length_eq_two.mp two
      exact .range (Directive.read_eq_some_iff_spelledBy.mp known) (comparable low (by simp))
        (comparable high (by simp))
    | raw known comparable => exact .raw (Directive.read_eq_none_iff.mp known) comparable

end Filter

namespace SearchCondition

open ParamSql.Filter

/-- What is read is in the grammar. -/
theorem isFilter_of_read {spec : Value} {condition : SearchCondition}
    (success : read spec = .ok condition) : IsFilter spec := by
  have kept : KeptByReading (fun spec _ => IsFilter spec)
      (fun items _ => ∀ item ∈ items, IsItem item)
      (fun entries _ => ∀ entry ∈ entries, IsEntry entry.1 entry.2) :=
    { list := .list
      map := .map
      noItem := nofun
      bare := fun present later => List.forall_mem_cons.mpr ⟨.column present, later⟩
      nested := fun inside later => List.forall_mem_cons.mpr ⟨.map (.map inside), later⟩
      noEntry := nofun
      group := fun known inside later => by
        have spelled := Directive.read_eq_some_iff_spelledBy.mp known
        exact List.forall_mem_cons.mpr ⟨.group spelled (.list inside), later⟩
      column := fun known present described later => by
        have plain := Directive.read_eq_none_iff.mp known
        have compared := isComparison_iff.mpr ⟨_, described⟩
        exact List.forall_mem_cons.mpr ⟨.column present plain compared, later⟩ }
  exact kept.of_read success

section

variable {rest : List (String × Value)} {others : List SearchCondition} {key : String}

theorem readEntries_group {connective : Connective} {items : List Value}
    {parts : List SearchCondition}
    (known : Directive.read key = .ok (some connective.directive))
    (inside : readItems items = .ok parts) (later : readEntries rest = .ok others) :
    readEntries ((key, .list items) :: rest) =
      .ok (.group (some connective) parts :: others) := by
  cases connective <;>
    simp [readEntries, known, Connective.directive, readGroup, inside, later]

theorem readEntries_column {value : Value} {comparison : Comparison}
    (known : Directive.read key = .ok none) (present : key ≠ "")
    (described : Comparison.Describes value comparison) (later : readEntries rest = .ok others) :
    readEntries ((key, value) :: rest) = .ok (.compared key comparison :: others) := by
  have required : Name.require .column key = .ok key := Name.require_of_ne present
  have given : Comparison.read key value = .ok comparison := Comparison.read_eq_ok_iff.mpr described
  simp [readEntries, known, required, given, later]

end

/-- Items that can be read one by one can be read as a list. -/
theorem exists_readItems {items : List Value}
    (each : ∀ item ∈ items, ∃ part, readItem item = .ok part) :
    ∃ parts, readItems items = .ok parts := by
  induction items with
  | nil => exact ⟨[], rfl⟩
  | cons item rest ih =>
    obtain ⟨⟨part, here⟩, there⟩ := List.forall_mem_cons.mp each
    obtain ⟨parts, later⟩ := ih there
    exact ⟨part :: parts, by simp [readItems, here, later]⟩

/-- Entries each of which can be read before any others can be read as a map. -/
theorem exists_readEntries {entries : List (String × Value)}
    (each : ∀ entry ∈ entries, ∀ rest others, readEntries rest = .ok others →
      ∃ part, readEntries (entry :: rest) = .ok (part :: others)) :
    ∃ parts, readEntries entries = .ok parts := by
  induction entries with
  | nil => exact ⟨[], rfl⟩
  | cons entry rest ih =>
    obtain ⟨here, there⟩ := List.forall_mem_cons.mp each
    obtain ⟨others, later⟩ := ih there
    obtain ⟨part, success⟩ := here rest others later
    exact ⟨part :: others, success⟩

mutual

/-- What is in the grammar is read. -/
theorem exists_read_of_isFilter : ∀ {spec : Value}, IsFilter spec →
    ∃ condition, read spec = .ok condition
  | _, .list each => by
    obtain ⟨parts, inside⟩ :=
      exists_readItems fun item member => exists_readItem_of_isItem (each item member)
    exact ⟨.group none parts, by simp [read, inside]⟩
  | _, .map each => by
    obtain ⟨parts, inside⟩ :=
      exists_readEntries fun entry member => exists_readEntries_of_isEntry (each entry member)
    exact ⟨.group none parts, by simp [read, inside]⟩

theorem exists_readItem_of_isItem : ∀ {item : Value}, IsItem item →
    ∃ part, readItem item = .ok part
  | _, @IsItem.column name present => by
    have required : Name.require .column name = .ok name := Name.require_of_ne present
    exact ⟨.unbound name, by simp [Value.string, readItem, Value.requireString, required]⟩
  | _, .map inside => exists_read_of_isFilter inside

theorem exists_readEntries_of_isEntry : ∀ {key : String} {value : Value}, IsEntry key value →
    ∀ rest others, readEntries rest = .ok others →
      ∃ part, readEntries ((key, value) :: rest) = .ok (part :: others)
  | _, _, .group spelled inside => by
    intro rest others later
    obtain ⟨condition, success⟩ := exists_read_of_isFilter inside
    obtain ⟨parts, inside, -⟩ := Outcome.bind_eq_ok.mp success
    have known := Directive.read_eq_some_iff_spelledBy.mpr spelled
    exact ⟨_, readEntries_group known inside later⟩
  | _, _, .column present plain given => by
    intro rest others later
    obtain ⟨comparison, described⟩ := isComparison_iff.mp given
    have known := Directive.read_eq_none_iff.mpr plain
    exact ⟨_, readEntries_column known present described later⟩

end

/-- A description can be read exactly when it is in the grammar. -/
theorem exists_read_iff_isFilter {spec : Value} :
    (∃ condition, read spec = .ok condition) ↔ IsFilter spec :=
  ⟨fun ⟨_, success⟩ => isFilter_of_read success, exists_read_of_isFilter⟩

/-- Where columns are not prefixed, every scope writes them alike. -/
theorem compile_unprefixed (scope other : Scope) (ambient : Connective) (spec : Value) :
    compile scope false ambient spec = compile other false ambient spec := by
  have column : (scope.column · false) = (other.column · false) := by
    funext name
    simp only [Scope.column, Bool.false_eq_true, if_false]
  rw [compile, compile, column]

/-- A description compiles exactly when it is in the grammar, whatever the scope, the prefixing and
the connective around it; none of these has an influence on the fault or on the parameters either.
Without prefixes the scope has no influence on the text. -/
theorem exists_compile_iff_isFilter (spec : Value) :
    (∀ scope prefixed ambient,
      (∃ statement, compile scope prefixed ambient spec = .ok statement) ↔ IsFilter spec) ∧
    (∀ scope prefixed ambient other flag connective,
      Statement.params <$> compile scope prefixed ambient spec =
        Statement.params <$> compile other flag connective spec) ∧
    ∀ scope other ambient, compile scope false ambient spec = compile other false ambient spec := by
  refine ⟨?_, ?_, ?_⟩
  · intro scope prefixed ambient
    rw [← exists_read_iff_isFilter]
    constructor
    · rintro ⟨statement, success⟩
      obtain ⟨condition, accepted, -⟩ := Outcome.bind_eq_ok.mp success
      exact ⟨condition, accepted⟩
    · rintro ⟨condition, accepted⟩
      exact ⟨condition.statement (scope.column · prefixed) ambient, by simp [compile, accepted]⟩
  · intro scope prefixed ambient other flag connective
    have operands (scope : Scope) (prefixed : Bool) (ambient : Connective) :
        Statement.params <$> compile scope prefixed ambient spec = operands <$> read spec := by
      simp [compile, statement, map_eq_pure_bind, bind_assoc]
    rw [operands, operands]
  · intro scope other ambient
    exact compile_unprefixed scope other ambient spec

end SearchCondition

end ParamSql
