import ParamSql.Proofs.Filter.Comparison

/-!
# Induction over the reading of a filter

Reading descends through the lists and maps of a filter. What its rules keep holds of every filter
that is accepted and the condition that it describes; the induction is done here once.
-/
namespace ParamSql

/-- The directive that opens a group with the connective. -/
def Connective.directive : Connective → Directive
  | .and => .and
  | .or => .or

namespace SearchCondition

/-- Properties of whole filters, of the items of their lists and of the entries of their maps,
each with the condition or the parts that are read from them, which every rule of reading keeps. -/
structure KeptByReading (whole : Value → SearchCondition → Prop)
    (items : List Value → List SearchCondition → Prop)
    (entries : List (String × Value) → List SearchCondition → Prop) : Prop where
  list : ∀ {given parts}, items given parts → whole (.list given) (.group none parts)
  map : ∀ {given parts}, entries given parts → whole (.map ⟨given⟩) (.group none parts)
  noItem : items [] []
  bare : ∀ {column rest parts}, column ≠ "" → items rest parts →
    items (.string column :: rest) (.unbound column :: parts)
  nested : ∀ {given inner rest parts}, entries given inner → items rest parts →
    items (.map ⟨given⟩ :: rest) (.group none inner :: parts)
  noEntry : entries [] []
  group : ∀ {key connective given inner rest parts},
    Directive.read key = .ok (some connective.directive) → items given inner →
    entries rest parts →
    entries ((key, .list given) :: rest) (.group (some connective) inner :: parts)
  column : ∀ {key value comparison rest parts}, Directive.read key = .ok none → key ≠ "" →
    Comparison.Describes value comparison → entries rest parts →
    entries ((key, value) :: rest) (.compared key comparison :: parts)

namespace KeptByReading

variable {whole : Value → SearchCondition → Prop}
  {items : List Value → List SearchCondition → Prop}
  {entries : List (String × Value) → List SearchCondition → Prop}

mutual

theorem of_read (kept : KeptByReading whole items entries) :
    ∀ {spec : Value} {condition : SearchCondition},
      read spec = .ok condition → whole spec condition
  | .scalar _, _, success => nomatch success
  | .list given, _, success => by
    obtain ⟨parts, inside, same⟩ := Outcome.bind_eq_ok.mp success
    cases same
    exact kept.list (kept.of_readItems inside)
  | .map ⟨given⟩, _, success => by
    obtain ⟨parts, inside, same⟩ := Outcome.bind_eq_ok.mp success
    cases same
    exact kept.map (kept.of_readEntries inside)

theorem of_readItems (kept : KeptByReading whole items entries) :
    ∀ {given : List Value} {parts : List SearchCondition},
      readItems given = .ok parts → items given parts
  | [], _, success => by
    cases success
    exact kept.noItem
  | .scalar value :: rest, _, success => by
    simp only [readItems, readItem, Outcome.bind_eq_ok, Value.requireString_eq_ok_iff,
      Name.require_eq_ok_iff, Outcome.pure_eq, Except.ok.injEq] at success
    obtain ⟨_, ⟨column, text, _, ⟨present, rfl⟩, rfl⟩, parts, later, rfl⟩ := success
    rw [text]
    exact kept.bare present (kept.of_readItems later)
  | .list inner :: rest, _, success => nomatch success
  | .map ⟨inner⟩ :: rest, _, success => by
    simp only [readItems, readItem, Outcome.bind_eq_ok, Outcome.pure_eq, Except.ok.injEq] at success
    obtain ⟨_, ⟨innerParts, inside, rfl⟩, parts, later, rfl⟩ := success
    exact kept.nested (kept.of_readEntries inside) (kept.of_readItems later)

theorem of_readEntries (kept : KeptByReading whole items entries) :
    ∀ {given : List (String × Value)} {parts : List SearchCondition},
      readEntries given = .ok parts → entries given parts
  | [], _, success => by
    cases success
    exact kept.noEntry
  | (key, value) :: rest, _, success => by
    simp only [readEntries, Outcome.bind_eq_ok] at success
    obtain ⟨directive, known, chosen⟩ := success
    cases directive with
    | none =>
      simp only [Outcome.bind_eq_ok, Name.require_eq_ok_iff,
        Comparison.read_eq_ok_iff, Outcome.pure_eq, Except.ok.injEq] at chosen
      obtain ⟨_, ⟨present, rfl⟩, comparison, described, _, rfl, parts, later, rfl⟩ := chosen
      exact kept.column known present described (kept.of_readEntries later)
    | some directive =>
      cases directive with
      | and | or =>
        simp only [Outcome.bind_eq_ok, Outcome.pure_eq, Except.ok.injEq] at chosen
        obtain ⟨part, inside, parts, later, rfl⟩ := chosen
        obtain ⟨given, inner, rfl, rfl, holds⟩ := kept.of_readGroup inside
        exact kept.group known holds (kept.of_readEntries later)
      | _ => cases chosen

theorem of_readGroup (kept : KeptByReading whole items entries) {key : String}
    {connective : Connective} : ∀ {value : Value} {part : SearchCondition},
      readGroup key connective value = .ok part →
      ∃ given parts, value = .list given ∧ part = .group (some connective) parts ∧
        items given parts
  | .scalar _, _, success => nomatch success
  | .list given, _, success => by
    obtain ⟨parts, inside, same⟩ := Outcome.bind_eq_ok.mp success
    cases same
    exact ⟨given, parts, rfl, rfl, kept.of_readItems inside⟩
  | .map _, _, success => nomatch success

end

end KeptByReading

end SearchCondition

end ParamSql
