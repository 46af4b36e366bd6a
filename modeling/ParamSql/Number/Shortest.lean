import ParamSql.Number.Binary64
import ParamSql.Text.Numeral

/-!
# The shortest decimal of a double

Among the decimals that round to a double, the one with the fewest digits is written, and of
those the nearest. It is found by trying grids of one to seventeen digits: the first grid
with a point in the double's rounding interval has one next to the double.
-/
namespace ParamSql

/-- The number `digits · 10 ^ exponent`. -/
structure Decimal where
  digits : Nat
  exponent : Int
  deriving DecidableEq, Repr

def Decimal.magnitude (d : Decimal) : Fraction := (Fraction.ofNat d.digits).scale 10 d.exponent

namespace Binary64

/-- Lower end of the rounding interval. Below a power of two doubles lie twice as close. -/
def lowerEnd (x : Binary64) : Fraction :=
  if x.significand = Nat.pow 2 52 ∧ x.exponent > -1074 then
    (Fraction.ofNat (4 * x.significand - 1)).scale 2 (x.exponent - 2)
  else (Fraction.ofNat (2 * x.significand - 1)).scale 2 (x.exponent - 1)

def upperEnd (x : Binary64) : Fraction :=
  (Fraction.ofNat (2 * x.significand + 1)).scale 2 (x.exponent - 1)

/-- The fraction rounds to the double; the ends of the interval do when the significand is
even. -/
def attracts (x : Binary64) (q : Fraction) : Bool :=
  if x.significand % 2 = 0 then !(q.lt x.lowerEnd) && !(x.upperEnd.lt q)
  else x.lowerEnd.lt q && q.lt x.upperEnd

/-- The power of ten just above a nonzero double: `10 ^ (p - 1) ≤ x < 10 ^ p`. -/
def decimalPoint (x : Binary64) : Int :=
  ((Text.digits (x.magnitude.scale 10 400).floor).length : Int) - 400

/-- The point of the grid of multiples of `10 ^ exponent` that rounds to the double and lies
nearest to it, the even one of two equally near. -/
def gridPoint? (x : Binary64) (exponent : Int) : Option Decimal :=
  let scaled := x.magnitude.scale 10 (-exponent)
  let below : Decimal := ⟨scaled.floor, exponent⟩
  let above : Decimal := ⟨scaled.floor + 1, exponent⟩
  match x.attracts below.magnitude, x.attracts above.magnitude with
  | true, true => some ⟨scaled.nearest, exponent⟩
  | true, false => some below
  | false, true => some above
  | false, false => none

/-- The shortest decimal of a nonzero double. -/
def shortest (x : Binary64) : Decimal :=
  let point := x.decimalPoint
  ((List.range 17).findSome? fun (extra : Nat) => gridPoint? x (point - 1 - extra)).getD ⟨0, 0⟩

end Binary64

/-- The digits without the zeros at their end, and the exponent raised to match. -/
def Decimal.significant (d : Decimal) : List Char × Int :=
  let written := Text.digits d.digits
  let kept := (written.reverse.dropWhile (· = '0')).reverse
  (kept, d.exponent + (written.length - kept.length : Nat))

/-- A positive decimal in writing: positional from 10^-5 up to 10^16, with a point in any case,
else one digit before the point and an exponent. -/
def Decimal.text (d : Decimal) : String :=
  let (digits, exponent) := d.significant
  let point := digits.length + exponent
  if 0 ≤ exponent ∧ point ≤ 16 then
    String.ofList (digits ++ List.replicate exponent.toNat '0') ++ ".0"
  else if 0 < point ∧ point ≤ 16 then
    String.ofList (digits.take point.toNat) ++ "." ++ String.ofList (digits.drop point.toNat)
  else if -5 < point ∧ point ≤ 0 then
    "0." ++ String.ofList (List.replicate (-point).toNat '0' ++ digits)
  else
    let tail := digits.drop 1
    String.ofList (digits.take 1) ++ (if tail.isEmpty then "" else "." ++ String.ofList tail) ++
      "e" ++ toString (point - 1)

/-- A double in its shortest decimal writing. -/
def Binary64.text (x : Binary64) : String :=
  (if x.negative then "-" else "") ++ (if x.isZero then "0.0" else x.shortest.text)

end ParamSql
