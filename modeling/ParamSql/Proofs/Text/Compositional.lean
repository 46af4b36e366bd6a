import ParamSql.Proofs.Text.Avoids
import ParamSql.Scope

/-!
# Properties of composed texts

A statement is put together from the words of SQL and from texts that were given. What holds of the
words, and of each given text in the form in which it is written, holds of the statement when it
holds of any two texts put together.
-/
namespace ParamSql

namespace Text

/-- Fixed text of a statement: no placeholder and no delimiter of names stands in it. -/
abbrev IsWord (text : String) : Prop := Unmarked text ∧ Avoids Name.delimiter text

/-- A property that words have, and that two texts pass on to the text put together from them. -/
structure Compositional (holds : String → Prop) : Prop where
  word : ∀ {text}, IsWord text → holds text
  append : ∀ {first second}, holds first → holds second → holds (first ++ second)

/-- The property holds of a name in every form: as it is, in backticks, and in capitals. -/
structure Spelled (holds : String → Prop) (name : String) : Prop where
  raw : holds name
  quoted : holds (Name.quote name)
  upper : holds (uppercase name)

theorem compositional_unmarked : Compositional Unmarked :=
  ⟨And.left, fun first second => avoids_append.mpr ⟨first, second⟩⟩

theorem spelled_unmarked {name : String} (unmarked : Unmarked name) : Spelled Unmarked name :=
  ⟨unmarked, unmarked_quote.mpr unmarked, avoids_uppercase uncased_questionMark unmarked⟩

variable {holds : String → Prop}

theorem Compositional.empty (kept : Compositional holds) : holds "" := kept.word (by decide)

theorem Compositional.intercalate (kept : Compositional holds) {separator : String}
    {texts : List String} (separated : holds separator) (each : ∀ text ∈ texts, holds text) :
    holds (separator.intercalate texts) := by
  induction texts with
  | nil => exact kept.empty
  | cons text rest ih =>
    obtain ⟨first, others⟩ := List.forall_mem_cons.mp each
    cases rest with
    | nil => simpa using first
    | cons next rest =>
      rw [String.intercalate_cons_cons]
      exact kept.append (kept.append first separated) (ih others)

end Text

namespace Scope

open Text

variable {holds : String → Prop} {scope : Scope}

theorem holds_qualify (kept : Compositional holds) (base : holds (Name.quote scope.defaultAlias))
    {quoted : String} (given : holds quoted) : holds (scope.qualify quoted) := by
  unfold qualify
  split
  · exact given
  · exact kept.append (kept.append base (kept.word (by decide))) given

theorem holds_column (kept : Compositional holds) (base : holds (Name.quote scope.defaultAlias))
    {name : String} (given : Spelled holds name) (prefixed : Bool) :
    holds (scope.column name prefixed) := by
  unfold column
  split
  · exact given.raw
  · split
    · exact holds_qualify kept base given.quoted
    · exact given.quoted

end Scope

end ParamSql
