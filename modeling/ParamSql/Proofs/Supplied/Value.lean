import ParamSql.Value.Basic

/-!
# The texts of a description

A description supplies text to a statement in its strings and in its keys.
-/
namespace ParamSql.Value

theorem append_subset_append {first second others more : List String} (left : first ⊆ others)
    (right : second ⊆ more) : first ++ second ⊆ others ++ more :=
  List.append_subset.mpr ⟨List.subset_append_of_subset_left _ left,
    List.subset_append_of_subset_right _ right⟩

mutual

/-- The strings and the keys of a value, at every depth. -/
def texts : Value → List String
  | .scalar value => value.text?.toList
  | .list items => textsOfItems items
  | .map ⟨entries⟩ => textsOfEntries entries

/-- The strings and the keys in the items of a list. -/
def textsOfItems : List Value → List String
  | [] => []
  | item :: rest => texts item ++ textsOfItems rest

/-- The keys of the entries of a map, each with the strings and the keys below it. -/
def textsOfEntries : List (String × Value) → List String
  | [] => []
  | (key, value) :: rest => key :: (texts value ++ textsOfEntries rest)

end

theorem texts_string (text : String) : (Value.string text).texts = [text] := rfl

mutual

/-- The strings of a value alone, at every depth. -/
def strings : Value → List String
  | .scalar value => value.text?.toList
  | .list items => stringsOfItems items
  | .map ⟨entries⟩ => stringsOfEntries entries

/-- The strings in the items of a list. -/
def stringsOfItems : List Value → List String
  | [] => []
  | item :: rest => strings item ++ stringsOfItems rest

/-- The strings below the keys of a map. -/
def stringsOfEntries : List (String × Value) → List String
  | [] => []
  | (_, value) :: rest => strings value ++ stringsOfEntries rest

end

theorem strings_string (text : String) : (Value.string text).strings = [text] := rfl

mutual

theorem strings_subset_texts : ∀ value : Value, value.strings ⊆ value.texts
  | .scalar _ => List.Subset.refl _
  | .list items => stringsOfItems_subset_textsOfItems items
  | .map ⟨entries⟩ => stringsOfEntries_subset_textsOfEntries entries

theorem stringsOfItems_subset_textsOfItems : ∀ items : List Value,
    stringsOfItems items ⊆ textsOfItems items
  | [] => List.Subset.refl _
  | item :: rest =>
    append_subset_append (strings_subset_texts item) (stringsOfItems_subset_textsOfItems rest)

theorem stringsOfEntries_subset_textsOfEntries : ∀ entries : List (String × Value),
    stringsOfEntries entries ⊆ textsOfEntries entries
  | [] => List.Subset.refl _
  | (key, value) :: rest =>
    List.subset_cons_of_subset key <|
      append_subset_append (strings_subset_texts value)
        (stringsOfEntries_subset_textsOfEntries rest)

end

end ParamSql.Value
