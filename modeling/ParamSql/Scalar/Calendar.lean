import ParamSql.Scalar.Basic

/-!
# Dates and times as scalars

A date is bound as `YYYY-MM-DD`; years outside 0 to 9999 carry a sign. A time of day follows
after a space, with as many groups of three fraction digits as it needs.
-/
namespace ParamSql

structure Date where
  year : Int
  month : Nat
  day : Nat
  deriving DecidableEq, Repr

/-- A time of day. A leap second counts as nanoseconds past the end of the second. -/
structure TimeOfDay where
  hour : Nat
  minute : Nat
  second : Nat
  nanosecond : Nat
  deriving DecidableEq, Repr

def Date.yearText (year : Int) : String :=
  let size := Text.padded 4 year.natAbs
  if 0 ≤ year ∧ year ≤ 9999 then size else (if year < 0 then "-" else "+") ++ size

def Date.text (date : Date) : String :=
  yearText date.year ++ "-" ++ Text.padded 2 date.month ++ "-" ++ Text.padded 2 date.day

/-- The fraction of a second: none, milliseconds, microseconds or nanoseconds. -/
def TimeOfDay.fraction (nanosecond : Nat) : String :=
  if nanosecond = 0 then ""
  else if nanosecond % 1000000 = 0 then "." ++ Text.padded 3 (nanosecond / 1000000)
  else if nanosecond % 1000 = 0 then "." ++ Text.padded 6 (nanosecond / 1000)
  else "." ++ Text.padded 9 nanosecond

def TimeOfDay.text (time : TimeOfDay) : String :=
  let leap := time.nanosecond ≥ 1000000000
  let second := if leap then time.second + 1 else time.second
  let nanosecond := if leap then time.nanosecond - 1000000000 else time.nanosecond
  Text.padded 2 time.hour ++ ":" ++ Text.padded 2 time.minute ++ ":" ++ Text.padded 2 second ++
    fraction nanosecond

namespace Scalar

def ofDate (date : Date) : Scalar := .string date.text

def ofDateTime (date : Date) (time : TimeOfDay) : Scalar :=
  .string (date.text ++ " " ++ time.text)

end Scalar

end ParamSql
