import TaggedCache.Decimal.Floating

/-!
# The fewest digits that read back

A decimal reads back to a floating point value when it lies between the midpoints to the two
neighbouring values; the midpoints themselves count when the mantissa is even. `shortest` takes the
coarsest power of ten with a multiple in that interval, and on it the multiple nearest to the value.
-/

namespace TaggedCache
namespace Decimal

/-- Where an exact tie between two equally short decimals goes. -/
inductive Tie where
  /-- To the even last digit. -/
  | toEven
  | up
deriving DecidableEq

/-- The reals that round to a positive value, over a common denominator. -/
structure Interval where
  /-- Numerator of the lower end. -/
  low : Nat
  /-- Numerator of the value. -/
  value : Nat
  /-- Numerator of the upper end. -/
  high : Nat
  /-- The denominator of all three. -/
  den : Nat
  /-- True when the ends belong to the interval. -/
  closed : Bool

/-- The interval of `mantissa * 2 ^ exponent`. Below a power of two the gap to the next value is half
as wide, except among the smallest values of the format. -/
def Interval.of (f : Floating.Format) (mantissa : Nat) (exponent : Int) : Interval :=
  let narrow := mantissa = 1 <<< (f.precision - 1) ∧ f.minExponent < exponent
  let scale (n : Nat) : Nat := (Floating.scaleBinary n 1 (exponent - 2)).1
  { low := scale (4 * mantissa - if narrow then 1 else 2)
    value := scale (4 * mantissa)
    high := scale (4 * mantissa + 2)
    den := (Floating.scaleBinary 1 1 (exponent - 2)).2
    closed := mantissa % 2 = 0 }

/-- Numerator of `count * 10 ^ grid` over `den`, beside the factor that the other numerators take. -/
def onGrid (count : Nat) (grid : Int) (den : Nat) : Nat × Nat :=
  if 0 ≤ grid then (count * Nat.pow 10 grid.toNat * den, 1)
  else (count * den, Nat.pow 10 (-grid).toNat)

/-- True when `count * 10 ^ grid` reads back to the value of the interval. -/
def Interval.contains (i : Interval) (count : Nat) (grid : Int) : Bool :=
  let (c, factor) := onGrid count grid i.den
  if i.closed then i.low * factor ≤ c ∧ c ≤ i.high * factor
  else i.low * factor < c ∧ c < i.high * factor

/-- The multiple of `10 ^ grid` nearest to the value among those in the interval, if there is one. -/
def Interval.nearest? (i : Interval) (tie : Tie) (grid : Int) : Option Nat :=
  let (unit, factor) := onGrid 1 grid i.den
  let below := i.value * factor / unit
  match i.contains below grid, i.contains (below + 1) grid with
  | true, true =>
    let twice := 2 * (i.value * factor)
    let middle := (2 * below + 1) * unit
    if twice < middle then some below
    else if middle < twice then some (below + 1)
    else match tie with
      | .up => some (below + 1)
      | .toEven => some (below + below % 2)
  | true, false => some below
  | false, true => some (below + 1)
  | false, false => none

/-- The least `k` with `value < 10 ^ k`. The offset keeps the quotient large for every format. -/
def Interval.magnitude (i : Interval) : Int :=
  (Nat.toDigits 10 (i.value * Nat.pow 10 400 / i.den)).length - 400

def stripZeros (fuel : Nat) (digits : Nat) (exponent : Int) : Nat × Int :=
  match fuel with
  | 0 => (digits, exponent)
  | fuel + 1 =>
    if digits % 10 = 0 ∧ digits ≠ 0 then stripZeros fuel (digits / 10) (exponent + 1)
    else (digits, exponent)

/-- Tries grids of one digit, two digits and so on. Twenty digits always suffice. -/
def Interval.search (i : Interval) (tie : Tie) (magnitude : Int) : Nat → Nat → Nat × Int
  | 0, _ => (0, 0)
  | fuel + 1, places =>
    let grid := magnitude - places
    match i.nearest? tie grid with
    | some count => stripZeros 400 count grid
    | none => i.search tie magnitude fuel (places + 1)

/-- The shortest decimal `(digits, exponent)` that reads back to a positive value; zero is `(0, 0)`. -/
def shortest (f : Floating.Format) (tie : Tie) (mantissa : Nat) (exponent : Int) : Nat × Int :=
  if mantissa = 0 then (0, 0)
  else
    let i := Interval.of f mantissa exponent
    i.search tie i.magnitude 20 1

end Decimal
end TaggedCache
