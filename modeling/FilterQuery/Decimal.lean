/-!
# Decimal numbers and the doubles nearest to them

A decimal number is a sign, a whole coefficient and a power of ten. It is
what a number text denotes before it is rounded to a double
(`Decimal.toFloat?`), and what a double is turned into before it is written
(`FilterQuery.Decimal.Shortest`).
-/

namespace FilterQuery

/-- The number `± coefficient * 10 ^ exponent`. -/
structure Decimal where
  negative : Bool
  coefficient : Nat
  exponent : Int
deriving Repr, DecidableEq

/-- How many decimal digits a number is written with; one for zero. -/
def digitCount (n : Nat) : Nat := (Nat.toDigits 10 n).length

namespace Decimal

/-- The double nearest to the absolute value, or nothing where that lies
beyond the largest double. The exponent is looked at first: below
`10 ^ -330` every number rounds to zero and above `10 ^ 310` none is a
double, so a huge exponent never has to be raised to its power. -/
def magnitude? (d : Decimal) : Option Float :=
  let size := digitCount d.coefficient + d.exponent
  if d.coefficient = 0 || size < -330 then some 0
  else if 310 < size then none
  else
    let x := Float.ofScientific d.coefficient (d.exponent < 0) d.exponent.natAbs
    if x.isFinite then some x else none

/-- The double nearest to the number, or nothing where it lies beyond the
largest double. Zero keeps its sign. -/
def toFloat? (d : Decimal) : Option Float :=
  d.magnitude?.map fun x => if d.negative then -x else x

end Decimal

end FilterQuery
