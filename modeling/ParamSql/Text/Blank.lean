/-!
# Blank characters

The characters with the White_Space property of Unicode, and text without the blanks around
it.
-/
namespace ParamSql.Text

/-- White_Space: tab to carriage return, the space, and the wider and narrower spaces. -/
def isBlank (c : Char) : Bool :=
  let code := c.toNat
  (9 ≤ code && code ≤ 13) || code == 0x20 || code == 0x85 || code == 0xA0 || code == 0x1680 ||
    (0x2000 ≤ code && code ≤ 0x200A) || code == 0x2028 || code == 0x2029 || code == 0x202F ||
    code == 0x205F || code == 0x3000

/-- The characters between the leading and the trailing blanks. -/
def trimBlanks (chars : List Char) : List Char :=
  ((chars.dropWhile isBlank).reverse.dropWhile isBlank).reverse

end ParamSql.Text
