import FilterQuery.Decimal

/-!
# The shortest decimal that reads back

Of the decimals that round to a given double, the one with the fewest
digits, and of those the nearest to the double. All arithmetic is on whole
numbers: a double is `mantissa * 2 ^ exponent`, the reals that round to it
form an interval around it, and a decimal with `n` digits lies in that
interval only if one of the two neighbours of the double on the grid of
`n`-digit decimals does. So `n = 1, 2, … 17` are tried in turn.
-/

namespace FilterQuery

/-- A positive double, `mantissa * 2 ^ exponent`. -/
structure Dyadic where
  mantissa : Nat
  exponent : Int
  /-- The next smaller double is only half as far away as the next larger
  one: the mantissa is the least of its binade. -/
  narrowBelow : Bool
deriving Repr, DecidableEq

namespace Dyadic

/-- The absolute value of a finite double. -/
def ofFloat (x : Float) : Dyadic :=
  let bits := x.toBits.toNat
  let fraction : Nat := bits % (1 <<< 52)
  let binade : Nat := (bits >>> 52) % (1 <<< 11)
  if binade = 0 then ⟨fraction, -1074, false⟩
  else ⟨(1 <<< 52) + fraction, (binade : Int) - 1075, fraction = 0 && 1 < binade⟩

/-- A quarter of the unit of the mantissa is `2 ^ (exponent - 2)`: the
interval around the double has whole ends when counted in it. -/
def quarter (x : Dyadic) : Nat × Nat :=
  let e := x.exponent - 2
  (1 <<< e.toNat, 1 <<< (-e).toNat)

/-- The interval of reals that round to the double, counted in quarters. -/
def least (x : Dyadic) : Nat := 4 * x.mantissa - if x.narrowBelow then 1 else 2

/-- The upper end of the interval, counted in quarters. -/
def greatest (x : Dyadic) : Nat := 4 * x.mantissa + 2

/-- The ends of the interval round to the double exactly if its mantissa is
even, as a tie between two doubles goes to the even one. -/
def closed (x : Dyadic) : Bool := x.mantissa % 2 = 0

/-- The exponent of the leading decimal digit of `num / den`. -/
def leadingExponent (num den : Nat) : Int :=
  let e : Int := digitCount num - digitCount den
  if den * Nat.pow 10 e.toNat ≤ num * Nat.pow 10 (-e).toNat then e else e - 1

/-- A multiple of `10 ^ unit` that rounds to the double and is one of its
two neighbours among those multiples; the nearer one if both round to it. -/
def neighbour? (x : Dyadic) (unit : Int) : Option Nat :=
  let (num, den) := x.quarter
  -- A count `d` of units equals `q` quarters when `d * below = q * above`.
  let below := den * Nat.pow 10 unit.toNat
  let above := num * Nat.pow 10 (-unit).toNat
  let inside (d : Nat) : Bool :=
    if x.closed then x.least * above ≤ d * below && d * below ≤ x.greatest * above
    else x.least * above < d * below && d * below < x.greatest * above
  let value := 4 * x.mantissa * above
  let low := value / below
  let high := low + 1
  match inside low, inside high with
  | true, true =>
      let down := value - low * below
      let up := high * below - value
      some (if down < up || (down = up && low % 2 = 0) then low else high)
  | true, false => some low
  | false, true => some high
  | false, false => none

/-- Try the grids of `n`, `n + 1`, … digits until one has a decimal that
rounds to the double. A grid of 17 digits always has one; `fuel` counts the
grids that are left. -/
def search (x : Dyadic) (leading : Int) : (fuel n : Nat) → Decimal
  | 0, n => ⟨false, 0, leading - n⟩
  | fuel + 1, n =>
      let unit := leading - n + 1
      match x.neighbour? unit with
      | some d => ⟨false, d, unit⟩
      | none => search x leading fuel (n + 1)

/-- The shortest decimal that rounds to the double. -/
def shortest (x : Dyadic) : Decimal :=
  let (num, den) := x.quarter
  search x (leadingExponent (4 * x.mantissa * num) den) 17 1

end Dyadic

namespace Decimal

/-- Drop the zeros at the end of the coefficient; `fuel` bounds their
number. -/
def trim : (fuel : Nat) → Decimal → Decimal
  | 0, d => d
  | fuel + 1, d =>
      if d.coefficient % 10 = 0 && d.coefficient ≠ 0 then
        trim fuel { d with coefficient := d.coefficient / 10, exponent := d.exponent + 1 }
      else d

/-- The shortest decimal that reads back as the given finite double, without
zeros at the end. Both zeros have the coefficient zero. -/
def shortest (x : Float) : Decimal :=
  let dyadic := Dyadic.ofFloat x
  let negative := x.toBits.toNat >>> 63 = 1
  if dyadic.mantissa = 0 then ⟨negative, 0, 0⟩
  else { dyadic.shortest.trim 17 with negative := negative }

end Decimal

end FilterQuery
