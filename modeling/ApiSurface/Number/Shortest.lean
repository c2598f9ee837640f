import ApiSurface.Number.Binary

/-!
# The shortest decimal that reads back

Every magnitude owns the interval of reals that round to it; the ends belong to it when the
significand is even. Of the decimals in that interval the shortest are those with the fewest
digits, and among them the nearest to the magnitude is chosen. For each number of digits it is
enough to test the two points of the decimal grid that enclose the magnitude, since a grid that
has a point in the interval has one of these two in it.

All arithmetic is on natural numbers over a common denominator.
-/
namespace ApiSurface.Number

/-- What is done with a magnitude half way between two equally short decimals. -/
inductive Tie where
  | up
  | toEven

/-- The reals that round to a magnitude, as numerators over one denominator. -/
structure RoundingInterval where
  low : Nat
  value : Nat
  high : Nat
  denominator : Nat
  /-- The ends belong to the interval. -/
  closed : Bool

/-- The reals that round to the magnitude. -/
def Magnitude.interval (m : Magnitude) : RoundingInterval :=
  let scale := Nat.pow 2 m.exponent.toNat
  { low := (4 * m.significand - if m.closeBelow then 1 else 2) * scale
    value := 4 * m.significand * scale
    high := (4 * m.significand + 2) * scale
    denominator := 4 * Nat.pow 2 (-m.exponent).toNat
    closed := m.significand % 2 = 0 }

namespace RoundingInterval

/-- The fraction `numerator / divisor` lies in the interval. -/
def holds (i : RoundingInterval) (numerator divisor : Nat) : Bool :=
  let n := numerator * i.denominator
  if i.closed then i.low * divisor ≤ n && n ≤ i.high * divisor
  else i.low * divisor < n && n < i.high * divisor

/-- Digits before the decimal point; for a value below one, minus the zeros after the point. -/
def order (i : RoundingInterval) : Int :=
  if i.denominator ≤ i.value then (Nat.toDigits 10 (i.value / i.denominator)).length
  else 1 - ((Nat.toDigits 10 ((i.denominator - 1) / i.value)).length : Int)

/-- The multiple of `10 ^ exponent` in the interval that is nearest to the value, by its factor. -/
def nearest? (i : RoundingInterval) (tie : Tie) (exponent : Int) : Option Nat :=
  let grid := Nat.pow 10 exponent.toNat
  let cell := Nat.pow 10 (-exponent).toNat
  let scaled := i.value * cell
  let unit := i.denominator * grid
  let below := scaled / unit
  let rest := scaled % unit
  match i.holds (below * grid) cell, i.holds ((below + 1) * grid) cell with
  | false, false => none
  | true, false => some below
  | false, true => some (below + 1)
  | true, true =>
    if 2 * rest < unit then some below
    else if unit < 2 * rest then some (below + 1)
    else match tie with
      | .up => some (below + 1)
      | .toEven => if below % 2 = 0 then some below else some (below + 1)

end RoundingInterval

/-- The number `0.d₁d₂… · 10 ^ point` of decimal digits, the last of which is not zero. -/
structure Decimal where
  digits : List Char
  point : Int
deriving DecidableEq

/-- The number `factor · 10 ^ exponent`. -/
def Decimal.ofScaled (factor : Nat) (exponent : Int) : Decimal :=
  let digits := Nat.toDigits 10 factor
  ⟨(digits.reverse.dropWhile (· = '0')).reverse, digits.length + exponent⟩

/-- The shortest decimal that rounds to the magnitude. Seventeen digits always suffice. -/
def Magnitude.shortest (tie : Tie) (m : Magnitude) : Decimal :=
  let i := m.interval
  let attempt (count : Nat) : Option Decimal :=
    let exponent := i.order - count
    (i.nearest? tie exponent).map (Decimal.ofScaled · exponent)
  ((List.range' 1 17).findSome? attempt).getD ⟨[], 0⟩

end ApiSurface.Number
