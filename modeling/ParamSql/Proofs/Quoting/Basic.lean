import Mathlib.Algebra.Group.Nat.Even
import ParamSql.Proofs.Text.Compositional

/-!
# Well quoted texts

A text is well quoted when its backticks come in pairs and every pair encloses a name. This is seen
from how the text is put together, and said of the pieces into which the backticks split it: those
at odd positions are the names.
-/
namespace ParamSql.Text

/-- Without backticks. -/
abbrev Undelimited (text : String) : Prop := Avoids Name.delimiter text

/-- The pieces of a text between its backticks. -/
def pieces (text : String) : List String := (text.toList.splitOn Name.delimiter).map String.ofList

/-- The backticks are even in number, and every piece at an odd position, which is the inside of an
identifier, is one of the names and not empty. -/
structure WellQuoted (known : List String) (text : String) : Prop where
  even : Even (text.toList.count Name.delimiter)
  inside : ∀ position piece, (pieces text)[2 * position + 1]? = some piece →
    piece ∈ known ∧ piece ≠ ""

/-- The text consists of quoted names, with texts without backticks around them. -/
inductive Quoting (known : List String) : String → Prop
  | plain {text : String} (plain : Undelimited text) : Quoting known text
  | name {before name after : String} (plain : Undelimited before) (listed : name ∈ known)
      (present : name ≠ "") (undelimited : Undelimited name) (rest : Quoting known after) :
      Quoting known (before ++ Name.quote name ++ after)

theorem pieces_of_undelimited {text : String} (plain : Undelimited text) :
    pieces text = [text] := by
  simp [pieces, List.splitOn_eq_singleton plain]

theorem pieces_quote {before name after : String} (plain : Undelimited before)
    (undelimited : Undelimited name) :
    pieces (before ++ Name.quote name ++ after) = before :: name :: pieces after := by
  have chars : (before ++ Name.quote name ++ after).toList =
      before.toList ++ Name.delimiter :: (name.toList ++ Name.delimiter :: after.toList) := by
    simp [Name.toList_quote]
  rw [pieces, chars, List.splitOn_append_cons_self_of_not_mem plain,
    List.splitOn_append_cons_self_of_not_mem undelimited]
  simp [pieces]

variable {known : List String}

namespace Quoting

theorem append {first second : String} (left : Quoting known first)
    (right : Quoting known second) : Quoting known (first ++ second) := by
  induction left with
  | plain plain =>
    cases right with
    | plain behind => exact .plain (avoids_append.mpr ⟨plain, behind⟩)
    | name behind listed present undelimited rest =>
      rw [← String.append_assoc, ← String.append_assoc]
      exact .name (avoids_append.mpr ⟨plain, behind⟩) listed present undelimited rest
  | name plain listed present undelimited rest ih =>
    rw [String.append_assoc]
    exact .name plain listed present undelimited ih

theorem quote {name : String} (listed : name ∈ known) (present : name ≠ "")
    (undelimited : Undelimited name) : Quoting known (Name.quote name) := by
  have alone : Quoting known ("" ++ Name.quote name ++ "") :=
    .name avoids_empty listed present undelimited (.plain avoids_empty)
  simpa using alone

/-- Each quoted name adds two backticks and two pieces, the second of which is the name. -/
theorem wellQuoted {text : String} (quoting : Quoting known text) : WellQuoted known text := by
  induction quoting with
  | @plain text plain =>
    constructor
    · rw [List.count_eq_zero.mpr plain]
      exact Even.zero
    · rw [pieces_of_undelimited plain]
      intro position piece found
      simp at found
  | @name before name after plain listed present undelimited rest ih =>
    constructor
    · have counted : (before ++ Name.quote name ++ after).toList.count Name.delimiter =
          after.toList.count Name.delimiter + 2 := by
        simp [Name.toList_quote, List.count_eq_zero.mpr plain,
          List.count_eq_zero.mpr undelimited]
      have two : Even 2 := by decide
      rw [counted]
      exact ih.even.add two
    · rw [pieces_quote plain undelimited]
      intro position piece found
      cases position with
      | zero =>
        cases found
        exact ⟨listed, present⟩
      | succ position => exact ih.inside position piece found

end Quoting

theorem compositional_quoting : Compositional (Quoting known) :=
  ⟨fun word => .plain word.2, .append⟩

theorem spelled_quoting {name : String} (listed : name ∈ known) (present : name ≠ "")
    (undelimited : Undelimited name) : Spelled (Quoting known) name :=
  ⟨.plain undelimited, .quote listed present undelimited,
    .plain (avoids_uppercase uncased_delimiter undelimited)⟩

end ParamSql.Text
