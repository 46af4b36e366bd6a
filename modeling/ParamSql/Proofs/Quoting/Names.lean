import ParamSql.Proofs.Quoting.Basic

/-!
# The names that a text quotes

The names of a text can be read back from it: they are what stands between its backticks. A text is
decoded from its front to its end, so that what one part of it adds to the names does not depend on
what the other parts are, however much a name may look like the text around it.
-/
namespace ParamSql.Text

/-- Every second one of some pieces: those that are enclosed by others. -/
def enclosed : List String → List String
  | _ :: inside :: rest => inside :: enclosed rest
  | _ => []

/-- What a text has in backticks, in order. -/
def quotedIn (text : String) : List String := enclosed (pieces text)

/-- The text adds exactly these names, whatever follows it. -/
def Quotes (names : List String) (text : String) : Prop :=
  ∀ after, quotedIn (text ++ after) = names ++ quotedIn after

/-- What stands in front of the first backtick does not matter. -/
theorem enclosed_splitOn_append {before : List Char} (plain : Name.delimiter ∉ before)
    (after : List Char) :
    enclosed (((before ++ after).splitOn Name.delimiter).map String.ofList) =
      enclosed ((after.splitOn Name.delimiter).map String.ofList) := by
  induction before with
  | nil => rfl
  | cons c before ih =>
    obtain ⟨apart, others⟩ := not_or.mp (mt List.mem_cons.mpr plain)
    have kept : (c == Name.delimiter) = false := beq_false_of_ne (Ne.symm apart)
    rw [← ih others, List.cons_append]
    simp only [List.splitOn, List.splitOnP_cons_eq_if_modifyHead, kept]
    cases List.splitOnP (· == Name.delimiter) (before ++ after) with
    | nil => rfl
    | cons first rest => cases rest <;> rfl

namespace Quotes

variable {names others : List String} {first second text : String}

theorem of_plain (plain : Undelimited text) : Quotes [] text := by
  intro after
  unfold quotedIn pieces
  rw [String.toList_append]
  exact enclosed_splitOn_append plain after.toList

theorem quote {name : String} (undelimited : Undelimited name) :
    Quotes [name] (Name.quote name) := by
  intro after
  have split : pieces ("" ++ Name.quote name ++ after) = "" :: name :: pieces after :=
    pieces_quote avoids_empty undelimited
  rw [String.empty_append] at split
  unfold quotedIn
  rw [split]
  rfl

theorem append (left : Quotes names first) (right : Quotes others second) :
    Quotes (names ++ others) (first ++ second) := by
  intro after
  rw [String.append_assoc, left, right, List.append_assoc]

theorem intercalate {α : Type} {items : List α} {names : α → List String} {text : α → String}
    {separator : String} (plain : Undelimited separator)
    (each : ∀ item ∈ items, Quotes (names item) (text item)) :
    Quotes (items.flatMap names) (separator.intercalate (items.map text)) := by
  induction items with
  | nil => exact of_plain (by simp)
  | cons item rest ih =>
    obtain ⟨here, there⟩ := List.forall_mem_cons.mp each
    cases rest with
    | nil => simpa using here
    | cons next rest =>
      rw [List.map_cons, List.map_cons, String.intercalate_cons_cons, List.flatMap_cons]
      have parts := (here.append (of_plain plain)).append (ih there)
      rwa [List.append_nil] at parts

/-- The names of a text are read back from it. -/
theorem quotedIn_eq (quotes : Quotes names text) : quotedIn text = names := by
  have whole := quotes ""
  rwa [String.append_empty, show quotedIn "" = [] from rfl, List.append_nil] at whole

/-- Texts that are equal quote the same names. -/
theorem unique (quotes : Quotes names first) (same : first = second)
    (likewise : Quotes others second) : names = others := by
  rw [← quotes.quotedIn_eq, same, likewise.quotedIn_eq]

end Quotes

end ParamSql.Text
