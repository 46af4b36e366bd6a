/-!
# Double-precision numbers

A finite double is kept as exact data: a sign and `significand · 2 ^ exponent`. Rounding goes
to the nearest double and halfway cases to the even significand, in natural-number
arithmetic throughout.
-/
namespace ParamSql

/-- A non-negative fraction; the denominator is positive wherever one is built. -/
structure Fraction where
  num : Nat
  den : Nat
  deriving DecidableEq, Repr

namespace Fraction

def ofNat (n : Nat) : Fraction := ⟨n, 1⟩

/-- The fraction times `base ^ power`. -/
def scale (base : Nat) (power : Int) (q : Fraction) : Fraction :=
  if 0 ≤ power then ⟨q.num * Nat.pow base power.toNat, q.den⟩
  else ⟨q.num, q.den * Nat.pow base (-power).toNat⟩

def floor (q : Fraction) : Nat := q.num / q.den

def lt (a b : Fraction) : Bool := a.num * b.den < b.num * a.den

/-- The nearest natural number; halfway between two, the even one. -/
def nearest (q : Fraction) : Nat :=
  let rest := q.num % q.den
  if 2 * rest > q.den ∨ (2 * rest = q.den ∧ q.floor % 2 = 1) then q.floor + 1 else q.floor

end Fraction

/-- A finite double. A nonzero one has a significand below 2^53, and at least 2^52 unless the
exponent is the smallest, -1074. -/
structure Binary64 where
  negative : Bool
  significand : Nat
  exponent : Int
  deriving DecidableEq, Repr

namespace Binary64

def zero (negative : Bool) : Binary64 := ⟨negative, 0, -1074⟩

def isZero (x : Binary64) : Bool := x.significand = 0

def magnitude (x : Binary64) : Fraction := (Fraction.ofNat x.significand).scale 2 x.exponent

/-- The double nearest to a fraction, unless the fraction is too large for one. -/
def round? (negative : Bool) (q : Fraction) : Option Binary64 :=
  if q.num = 0 then some (zero negative)
  else
    let estimate : Int := (q.num.log2 : Int) - (q.den.log2 : Int) - 52
    let fitted := if (q.scale 2 (-estimate)).floor < Nat.pow 2 52 then estimate - 1 else estimate
    let exponent := max fitted (-1074)
    let significand := (q.scale 2 (-exponent)).nearest
    let (significand, exponent) :=
      if significand = Nat.pow 2 53 then (Nat.pow 2 52, exponent + 1) else (significand, exponent)
    if exponent ≤ 971 then some ⟨negative, significand, exponent⟩ else none

def times? (x y : Binary64) : Option Binary64 :=
  let a := x.magnitude
  let b := y.magnitude
  round? (x.negative != y.negative) ⟨a.num * b.num, a.den * b.den⟩

/-- The rounded quotient by a nonzero double. -/
def over? (x y : Binary64) : Option Binary64 :=
  let a := x.magnitude
  let b := y.magnitude
  round? (x.negative != y.negative) ⟨a.num * b.den, a.den * b.num⟩

def powerOfTen? (power : Nat) : Option Binary64 := round? false (Fraction.ofNat (Nat.pow 10 power))

/-- Divide by 10^308 up to `times` times; zero stays as it is. -/
def sink? : Nat → Binary64 → Option Binary64
  | 0, x => some x
  | times + 1, x =>
    if x.isZero then some x
    else do sink? times (← x.over? (← powerOfTen? 308))

/-- The double that a decimal `significand · 10 ^ exponent` reads as: the significand is
rounded first and then multiplied or divided by a rounded power of ten, one no larger than
10^308 at a time. Nothing is read when the result is too large for a double. -/
def ofDecimal? (negative : Bool) (significand : Nat) (exponent : Int) : Option Binary64 := do
  let start ← round? negative (Fraction.ofNat significand)
  if 0 ≤ exponent then
    if exponent ≤ 308 then start.times? (← powerOfTen? exponent.toNat)
    else if start.isZero then some start
    else none
  else
    let whole := ((-exponent).toNat - 1) / 308
    let sunk ← sink? whole start
    if sunk.isZero then some sunk
    else sunk.over? (← powerOfTen? ((-exponent).toNat - 308 * whole))

end Binary64

end ParamSql
