import ParamSql.Number.Shortest

/-!
# Numbers of a document

A number literal without fraction and exponent is an integer while it fits a signed or an
unsigned 64-bit word. Every other literal is a double, and so is a negative zero.
-/
namespace ParamSql

inductive Number where
  | integer (value : Int)
  | double (value : Binary64)
  deriving DecidableEq, Repr

namespace Number

/-- The digits of a significand read so far: their value, and how far they shift the power of
ten. Digits are kept while the value fits an unsigned 64-bit word. -/
structure Significand where
  value : Nat
  shift : Int
  full : Bool
  deriving DecidableEq, Repr

/-- A digit before the point; one that no longer fits still counts as a place. -/
def Significand.addWhole (s : Significand) (digit : Char) : Significand :=
  let next := Text.appendDigit s.value digit
  if s.full ∨ UInt64.size ≤ next then ⟨s.value, s.shift + 1, true⟩ else ⟨next, s.shift, false⟩

/-- A digit after the point; from the first that does not fit on, all are ignored. -/
def Significand.addFraction (s : Significand) (digit : Char) : Significand :=
  let next := Text.appendDigit s.value digit
  if s.full ∨ UInt64.size ≤ next then ⟨s.value, s.shift, true⟩ else ⟨next, s.shift - 1, false⟩

/-- The digits before the point, with what follows them; no needless zero in front. -/
def readWhole? (chars : List Char) : Option (List Char × List Char) :=
  let (whole, rest) := chars.span Char.isDigit
  match whole with
  | [] => none
  | '0' :: _ :: _ => none
  | _ => some (whole, rest)

/-- The digits after a point, with what follows them. -/
def readFraction? : List Char → Option (List Char × List Char)
  | '.' :: chars =>
    let (fraction, rest) := chars.span Char.isDigit
    if fraction.isEmpty then none else some (fraction, rest)
  | chars => some ([], chars)

/-- An exponent that ends the literal; none stands for zero. -/
def readExponent? : List Char → Option Int
  | [] => some 0
  | mark :: chars =>
    let (negative, digits) := match chars with
      | '-' :: rest => (true, rest)
      | '+' :: rest => (false, rest)
      | rest => (false, rest)
    if (mark = 'e' ∨ mark = 'E') ∧ digits ≠ [] ∧ digits.all Char.isDigit then
      let size : Int := Text.digitsValue digits
      some (if negative then -size else size)
    else none

/-- The double with these digits around the point and this exponent. -/
def ofParts? (negative : Bool) (whole fraction : List Char) (exponent : Int) : Option Number :=
  let before := whole.foldl Significand.addWhole ⟨0, 0, false⟩
  let after := fraction.foldl Significand.addFraction ⟨before.value, before.shift, false⟩
  (Binary64.ofDecimal? negative after.value (after.shift + exponent)).map .double

/-- The number that a literal stands for; nothing for a text that is no number literal or
names a number too large for a double. -/
def ofLiteral? (text : String) : Option Number := do
  let (negative, chars) := match text.toList with
    | '-' :: rest => (true, rest)
    | chars => (false, chars)
  let (whole, rest) ← readWhole? chars
  let value := Text.digitsValue whole
  if rest.isEmpty ∧ !negative ∧ value < UInt64.size then some (.integer value)
  else if rest.isEmpty ∧ negative ∧ 0 < value ∧ Int64.minValue.toInt ≤ -value then
    some (.integer (-value))
  else
    let (fraction, rest) ← readFraction? rest
    ofParts? negative whole fraction (← readExponent? rest)

/-- The number in writing. -/
def text : Number → String
  | .integer value => toString value
  | .double value => value.text

/-- The signed 64-bit integer that the number is, if it is one. -/
def toInt64? : Number → Option Int64
  | .integer value =>
    if Int64.minValue.toInt ≤ value ∧ value ≤ Int64.maxValue.toInt then
      some (Int64.ofInt value)
    else none
  | .double _ => none

/-- A 64-bit integer as a number. -/
def ofInt64 (value : Int64) : Number := .integer value.toInt

theorem toInt64?_ofInt64 (value : Int64) : (ofInt64 value).toInt64? = some value := by
  rw [ofInt64, toInt64?, if_pos ⟨value.minValue_le_toInt, value.toInt_le⟩, Int64.ofInt_toInt]

/-- A number that is a 64-bit integer is the number of that integer. -/
theorem eq_ofInt64_of_toInt64? {number : Number} {value : Int64}
    (found : number.toInt64? = some value) : number = ofInt64 value := by
  cases number with
  | double value => simp [toInt64?] at found
  | integer n =>
    simp only [toInt64?] at found
    split at found
    · next range =>
      obtain ⟨low, high⟩ := range
      rw [Int64.toInt_minValue] at low
      rw [Int64.toInt_maxValue] at high
      cases Option.some.inj found
      rw [ofInt64, Int64.toInt_ofInt_of_le low (Int.lt_of_le_sub_one high)]
    · simp at found

end Number

end ParamSql
