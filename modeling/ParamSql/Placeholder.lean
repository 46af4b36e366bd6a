/-!
# Placeholders

A placeholder is a question mark in the text of a statement that stands for one parameter.
-/
namespace ParamSql.Placeholder

/-- Placeholders for a tuple of `width` values. -/
def tuple (width : Nat) : String := "( " ++ ",".intercalate (List.replicate width "?") ++ " )"

end ParamSql.Placeholder
