import ParamSql.Proofs.Projection.Lifting
import ParamSql.Proofs.Text.Parts

/-!
# The items of a projection

A text of names without commas, blanks and parentheses is divided, at its commas outside of
parentheses, into the items of the lists that show. What stands in a call lies within one item, and
an empty list has an item as well, an empty one.
-/
namespace ParamSql

/-- Neither a comma nor a blank nor a parenthesis stands in the text. -/
abbrev Text.Plain (text : String) : Prop := Avoids ',' text ∧ Closed text

namespace Projection

open Text

theorem plain_columnText {scope : Scope} {name : String} (base : Plain scope.defaultAlias)
    (given : Plain name) : Plain (columnText scope name) :=
  ⟨avoids_columnText (by decide) (by decide) base.1 given.1, closed_columnText base.2 given.2⟩

theorem plain_quote {name : String} (given : Plain name) : Plain (Name.quote name) :=
  ⟨(avoids_quote (by decide)).mpr given.1, closed_quote given.2⟩

theorem plain_uppercase {name : String} (given : Plain name) : Plain (uppercase name) :=
  ⟨avoids_uppercase uncased_comma given.1, closed_uppercase given.2⟩

theorem undivided_plain {text : String} (plain : Plain text) (depth : Nat) :
    Undivided depth text :=
  .of_unparenthesized plain.2.2 fun _ => plain.1

theorem undivided_aliased {name : String} (given : Plain name) (depth : Nat) :
    Undivided depth (aliasMark ++ Name.quote name) :=
  .append (.of_unparenthesized (by decide) fun _ => by decide)
    (undivided_plain (plain_quote given) depth)

theorem callText_eq (function argument : String) : callText function argument =
    uppercase function ++ ("(" ++ (" " ++ argument ++ " ") ++ ")") := by
  rw [← String.toList_inj]
  simp [callText]

theorem balanced_spaced {argument : String} (inside : Balanced argument) :
    Balanced (" " ++ argument ++ " ") :=
  .append (.append (.plain (by decide)) inside) (.plain (by decide))

theorem balanced_callText {function argument : String} (named : Plain function)
    (inside : Balanced argument) : Balanced (callText function argument) := by
  rw [callText_eq]
  exact .append (.plain (plain_uppercase named).2.2) (.parenthesized (balanced_spaced inside))

theorem undivided_callText {function argument : String} (named : Plain function)
    (inside : Balanced argument) (depth : Nat) : Undivided depth (callText function argument) := by
  rw [callText_eq]
  exact (undivided_plain (plain_uppercase named) depth).append
    (.parenthesized ((balanced_spaced inside).undivided depth))

namespace Layout

mutual

/-- The items of a layout: an expression belongs to the first item of what follows it. -/
def items : Layout → List String
  | blank => [""]
  | aliased name => [aliasMark ++ Name.quote name]
  | column scope name suffix => (items suffix).modifyHead (columnText scope name ++ ·)
  | call function argument suffix =>
    (items suffix).modifyHead (callText function argument.text ++ ·)
  | list [] => [""]
  | list (first :: rest) => items first ++ itemsOfAll rest

/-- The items of several layouts. -/
def itemsOfAll : List Layout → List String
  | [] => []
  | first :: rest => items first ++ itemsOfAll rest

end

variable {base : String}

mutual

theorem balanced_text (based : Plain base) : ∀ {layout : Layout}, layout.Uses base Plain →
    Balanced layout.text
  | blank, _ => .plain (by decide)
  | aliased _, given => .append (.plain (by decide)) (.plain (plain_quote given).2.2)
  | column _ _ _, ⟨same, given, below⟩ =>
    .append (.plain (plain_columnText (same ▸ based) given).2.2) (balanced_text based below)
  | call _ _ _, ⟨named, inside, below⟩ =>
    .append (balanced_callText named (balanced_text based inside)) (balanced_text based below)
  | list _, used => .intercalate (by decide) (balanced_texts based used)

theorem balanced_texts (based : Plain base) : ∀ {items : List Layout},
    AllUse base Plain items → ∀ text ∈ texts items, Balanced text
  | [], _ => nofun
  | _ :: _, ⟨here, there⟩ =>
    List.forall_mem_cons.mpr ⟨balanced_text based here, balanced_texts based there⟩

end

theorem items_ne_nil : ∀ layout : Layout, layout.items ≠ []
  | blank => List.cons_ne_nil _ _
  | aliased _ => List.cons_ne_nil _ _
  | column _ _ suffix => by simpa [items] using items_ne_nil suffix
  | call _ _ suffix => by simpa [items] using items_ne_nil suffix
  | list [] => List.cons_ne_nil _ _
  | list (first :: rest) => by simp [items, items_ne_nil first]

/-- In front of a comma or the end, an expression belongs to the first item behind it. -/
theorem outerPartsFrom_expression {text : String} (undivided : Undivided 0 text) {layout : Layout}
    {rest : List Char} {tail : List (List Char)}
    (found : outerPartsFrom 0 (layout.text.toList ++ rest) =
      layout.items.map String.toList ++ tail) :
    outerPartsFrom 0 ((text ++ layout.text).toList ++ rest) =
      (layout.items.modifyHead (text ++ ·)).map String.toList ++ tail := by
  rw [String.toList_append, List.append_assoc, undivided, found]
  cases split : layout.items with
  | nil => exact absurd split layout.items_ne_nil
  | cons first others => simp

mutual

/-- In front of a comma or the end, a layout is divided into its items. -/
theorem outerPartsFrom_text (based : Plain base) : ∀ {layout : Layout}, layout.Uses base Plain →
    ∀ {rest : List Char} {tail : List (List Char)}, outerPartsFrom 0 rest = [] :: tail →
      outerPartsFrom 0 (layout.text.toList ++ rest) = layout.items.map String.toList ++ tail
  | blank, _, _, _, next => next
  | aliased name, given, rest, tail, next => by
    rw [text, undivided_aliased given 0 rest, next]
    simp [items]
  | column scope name suffix, used, rest, tail, next => by
    obtain ⟨same, given, below⟩ := used
    exact outerPartsFrom_expression (undivided_plain (plain_columnText (same ▸ based) given) 0)
      (outerPartsFrom_text based below next)
  | call function argument suffix, used, rest, tail, next => by
    obtain ⟨named, inside, below⟩ := used
    exact outerPartsFrom_expression (undivided_callText named (balanced_text based inside) 0)
      (outerPartsFrom_text based below next)
  | list [], _, _, _, next => next
  | list (first :: others), used, rest, tail, next => by
    rw [text, texts, intercalate_cons, String.toList_append, List.append_assoc,
      outerPartsFrom_text based used.1 (outerPartsFrom_texts based used.2 next), items,
      List.map_append, List.append_assoc]

/-- Layouts behind commas are divided into their items, behind an empty one. -/
theorem outerPartsFrom_texts (based : Plain base) : ∀ {others : List Layout},
    AllUse base Plain others → ∀ {rest : List Char} {tail : List (List Char)},
      outerPartsFrom 0 rest = [] :: tail →
      outerPartsFrom 0 ((String.join ((texts others).map ("," ++ ·))).toList ++ rest) =
        [] :: ((itemsOfAll others).map String.toList ++ tail)
  | [], _, _, _, next => next
  | first :: others, used, rest, tail, next => by
    have split : (String.join ((texts (first :: others)).map ("," ++ ·))).toList ++ rest =
        ',' :: (first.text.toList ++
          ((String.join ((texts others).map ("," ++ ·))).toList ++ rest)) := by
      simp [texts, String.join_cons]
    rw [split, outerPartsFrom, if_pos ⟨rfl, rfl⟩,
      outerPartsFrom_text based used.1 (outerPartsFrom_texts based used.2 next), itemsOfAll,
      List.map_append, List.append_assoc]

end

/-- A text of plain names is divided into the items of its layout. -/
theorem outerParts_text (based : Plain base) {layout : Layout} (used : layout.Uses base Plain) :
    outerParts layout.text = layout.items := by
  have divided := outerPartsFrom_text based used (rfl : outerPartsFrom 0 [] = [[]])
  rw [List.append_nil, List.append_nil] at divided
  rw [outerParts, divided, List.map_map]
  simp [Function.comp_def]

end Layout

end Projection

end ParamSql
