import ParamSql.Scalar.Basic

/-!
# Fixed-point numbers as scalars

A fixed-point number is bound as text with exactly as many decimals as its scale.
-/
namespace ParamSql

/-- The number `mantissa / 10 ^ scale`. -/
structure FixedPoint where
  mantissa : Int
  scale : Nat
  deriving DecidableEq, Repr

def FixedPoint.text (number : FixedPoint) : String :=
  let written := Text.pad (number.scale + 1) (Text.digits number.mantissa.natAbs)
  let whole := written.take (written.length - number.scale)
  let decimals := written.drop (written.length - number.scale)
  (if number.mantissa < 0 then "-" else "") ++ String.ofList whole ++
    (if number.scale = 0 then "" else "." ++ String.ofList decimals)

def Scalar.ofFixedPoint (number : FixedPoint) : Scalar := .string number.text

end ParamSql
