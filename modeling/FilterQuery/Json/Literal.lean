import FilterQuery.Decimal.Shortest
import FilterQuery.Json.Basic

/-!
# Number literals

A number literal is a sign, whole digits, a fraction and an exponent, the
latter two optional. Four functions tie it to its neighbours: `text` and
`read?` to the characters it is written with, `value?` and `Number.literal`
to the number it stands for.

A literal without fraction and exponent stands for an integer while it fits
the signed or the unsigned 64-bit range, and for a float beyond; `-0` is the
float, as only that has a negative zero.

Readers of JSON differ in how close to a literal the double is that they take
it for. So that choice is a parameter, a `FloatReader`, of everything that
reads numbers. The program runs with `FloatReader.nearest`.
-/

namespace FilterQuery

namespace Json

/-- A number as it is written. An empty fraction stands for none. -/
structure Literal where
  negative : Bool := false
  whole : Nat
  fraction : List Char := []
  exponent : Option Int := none
deriving Repr, DecidableEq

/-! ## Literals and characters -/

def digits (n : Nat) : List Char := Nat.toDigits 10 n

def ofDigits (ds : List Char) : Nat := Nat.ofDigitChars 10 ds 0

namespace Literal

/-- The characters of an exponent; its sign is always written. -/
def exponentText : Option Int → List Char
  | none => []
  | some e => 'e' :: (if e < 0 then '-' else '+') :: digits e.natAbs

def fractionText (fraction : List Char) : List Char :=
  if fraction.isEmpty then [] else '.' :: fraction

def text (l : Literal) : List Char :=
  (if l.negative then ['-'] else []) ++ digits l.whole
    ++ fractionText l.fraction ++ exponentText l.exponent

def readDigits? (cs : List Char) : Option (List Char × List Char) :=
  match cs.span Char.isDigit with
  | ([], _) => none
  | (ds, rest) => some (ds, rest)

/-- Read the whole part. A zero at the front stands alone. -/
def readWhole? (cs : List Char) : Option (Nat × List Char) :=
  match readDigits? cs with
  | none => none
  | some (ds, rest) => if ds.head? = some '0' && 1 < ds.length then none else some (ofDigits ds, rest)

def readFraction? : List Char → Option (List Char × List Char)
  | '.' :: rest => readDigits? rest
  | cs => some ([], cs)

/-- Read the sign of an exponent: whether it is negative. -/
def readExponentSign : List Char → Bool × List Char
  | '-' :: rest => (true, rest)
  | '+' :: rest => (false, rest)
  | cs => (false, cs)

def readExponent? (cs : List Char) : Option (Option Int × List Char) :=
  match cs with
  | c :: rest =>
      if c = 'e' || c = 'E' then
        let (negative, rest) := readExponentSign rest
        (readDigits? rest).map fun (ds, rest) =>
          (some (if negative then -(ofDigits ds : Int) else ofDigits ds), rest)
      else some (none, cs)
  | [] => some (none, [])

/-- Read a literal: the longest beginning of the characters that is one, and
what follows it. -/
def read? (cs : List Char) : Option (Literal × List Char) :=
  let (negative, cs) := match cs with
    | '-' :: rest => (true, rest)
    | cs => (false, cs)
  match readWhole? cs with
  | none => none
  | some (whole, cs) =>
      match readFraction? cs with
      | none => none
      | some (fraction, cs) =>
          (readExponent? cs).map fun (exponent, cs) =>
            (⟨negative, whole, fraction, exponent⟩, cs)

/-! ## Literals and numbers -/

def toDecimal (l : Literal) : Decimal where
  negative := l.negative
  coefficient := l.whole * Nat.pow 10 l.fraction.length + ofDigits l.fraction
  exponent := l.exponent.getD 0 - l.fraction.length

/-- The integer a literal is written as, if it has neither a fraction nor an
exponent, is no negative zero, and fits 64 bits, signed if it is negative
and unsigned otherwise. -/
def integer? (l : Literal) : Option Int :=
  if l.fraction = [] && l.exponent.isNone then
    if l.negative then
      if 0 < l.whole && Int64.minValue.toInt ≤ -(l.whole : Int) then some (-(l.whole : Int))
      else none
    else if l.whole < UInt64.size then some l.whole else none
  else none

end Literal

/-- Takes a literal for a double, infinite where the literal lies beyond the
largest one. -/
class FloatReader where
  read : Literal → Float

instance FloatReader.nearest : FloatReader where
  read l := l.toDecimal.toFloat?.getD (if l.negative then -1 / 0 else 1 / 0)

namespace Literal

/-- The number a literal stands for, or nothing where it lies beyond the
largest double. -/
def value? [FloatReader] (l : Literal) : Option Number :=
  match l.integer? with
  | some n => some (.integer n)
  | none =>
      let x := FloatReader.read l
      if x.isFinite then some (.float x) else none

/-- A decimal is written with all its digits before or around the point
while the exponent of its leading digit lies in this range. -/
def isPositional (leading : Int) : Bool := -5 ≤ leading && leading ≤ 15

/-- How a decimal is written: positionally with at least one digit on each
side of the point, or with one digit before the point and an exponent. -/
def ofDecimal (d : Decimal) : Literal :=
  let ds := digits d.coefficient
  if d.coefficient = 0 then { negative := d.negative, whole := 0, fraction := ['0'] }
  else
    let leading := d.exponent + ds.length - 1
    if !isPositional leading then
      { negative := d.negative
        whole := ofDigits (ds.take 1)
        fraction := ds.drop 1
        exponent := some leading }
    else if 0 ≤ d.exponent then
      { negative := d.negative
        whole := d.coefficient * Nat.pow 10 d.exponent.toNat
        fraction := ['0'] }
    else
      let places := (-d.exponent).toNat
      { negative := d.negative
        whole := d.coefficient / Nat.pow 10 places
        fraction := (List.replicate (places - ds.length) '0' ++ ds).drop
          (ds.length - places) }

end Literal

namespace Number

/-- How a number is written. A float has the fewest digits that read back,
and a fraction or an exponent. -/
def literal : Number → Literal
  | .integer n => { negative := n < 0, whole := n.natAbs }
  | .float x => .ofDecimal (.shortest x)

/-- Whether a number has a literal: an integer and a finite float do. -/
def isFinite : Number → Bool
  | .integer _ => true
  | .float x => x.isFinite

end Number

end Json

end FilterQuery
