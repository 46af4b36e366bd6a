import ParamSql.Text.Uppercase.Table

/-!
# Upper-casing text

Text is upper-cased character by character with the full mappings of Unicode, so a text can
grow: `ß` becomes `SS`. Neither the language nor the neighbours of a character matter.
-/
namespace ParamSql.Text

/-- The upper-case form of one character; a character without one stands for itself. -/
def upperChar (c : Char) : List Char :=
  match caseExpansions.lookup c.toNat with
  | some codes => codes.map Char.ofNat
  | none =>
    match caseRuns.find? (·.holds c.toNat) with
    | some run => [Char.ofNat (c.toNat + run.shift).toNat]
    | none => [c]

def uppercase (text : String) : String := String.ofList (text.toList.flatMap upperChar)

theorem toList_uppercase (text : String) :
    (uppercase text).toList = text.toList.flatMap upperChar := by
  simp [uppercase]

/-- Upper-casing works on each part of a text alone. -/
theorem uppercase_append (left right : String) :
    uppercase (left ++ right) = uppercase left ++ uppercase right := by
  simp [uppercase]

end ParamSql.Text
