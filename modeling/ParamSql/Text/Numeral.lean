/-!
# Decimal numerals

Numerals of natural numbers: padded to a width for dates and fractions, and read back as a
count that fits an unsigned 64-bit word.
-/
namespace ParamSql.Text

/-- The decimal digits of a number, most significant first. -/
def digits (n : Nat) : List Char := Nat.toDigits 10 n

/-- A numeral with zeros in front up to `width` characters; a longer one is kept whole. -/
def pad (width : Nat) (numeral : List Char) : List Char :=
  List.replicate (width - numeral.length) '0' ++ numeral

/-- The decimal numeral of `n` with at least `width` digits. -/
def padded (width n : Nat) : String := String.ofList (pad width (digits n))

/-- The low byte of `n` as two lower-case hexadecimal digits. -/
def hexPair (n : Nat) : List Char := pad 2 (Nat.toDigits 16 (n % 256))

/-- One more digit at the end of a numeral with value `n`. -/
def appendDigit (n : Nat) (digit : Char) : Nat := 10 * n + (digit.toNat - '0'.toNat)

/-- The value of a run of decimal digits. -/
def digitsValue (chars : List Char) : Nat := chars.foldl appendDigit 0

/-- A count: at most one `+`, then one or more decimal digits, for a number below 2^64. -/
def readCount? (chars : List Char) : Option Nat :=
  let numeral := match chars with
    | '+' :: rest => rest
    | _ => chars
  if numeral ≠ [] ∧ numeral.all Char.isDigit ∧ digitsValue numeral < UInt64.size then
    some (digitsValue numeral)
  else none

end ParamSql.Text
