namespace RunLog.Decimal

/-- A positive number `numerator / denominator`, with the ends of the interval that rounds to it
over the same denominator; the ends count only where `closed` says so. -/
structure Rounding where
  numerator : Nat
  denominator : Nat
  low : Nat
  high : Nat
  closed : Bool

namespace Rounding

/-- The interval around `mantissa * 2 ^ power`, where `mantissa` is not zero. Below a power of two
the neighbour is only half as far away, unless the mantissa has no smaller scale. -/
def ofBinary (mantissa : Nat) (power : Int) (narrowBelow : Bool) : Rounding :=
  let scale := Nat.pow 2 power.toNat
  { numerator := 4 * mantissa * scale
    denominator := 4 * Nat.pow 2 (-power).toNat
    low := (4 * mantissa - if narrowBelow then 1 else 2) * scale
    high := (4 * mantissa + 2) * scale
    closed := mantissa % 2 = 0 }

def holds (r : Rounding) (digits : Nat) (power : Int) : Bool :=
  let value := digits * Nat.pow 10 power.toNat * r.denominator
  let unit := Nat.pow 10 (-power).toNat
  if r.closed then decide (r.low * unit ≤ value) && decide (value ≤ r.high * unit)
  else decide (r.low * unit < value) && decide (value < r.high * unit)

def leading (r : Rounding) : Int :=
  ((Nat.toDigits 10 (r.numerator * Nat.pow 10 400 / r.denominator)).length : Int) - 401

/-- The number on the grid of `10 ^ power` nearest to the value, among those in the interval; of two
that are equally near the even one. -/
def onGrid? (r : Rounding) (power : Int) : Option Nat :=
  let value := r.numerator * Nat.pow 10 (-power).toNat
  let step := r.denominator * Nat.pow 10 power.toNat
  let below := value / step
  let rest := 2 * (value % step)
  let first := if rest < step || (rest = step && below % 2 = 0) then below else below + 1
  let second := if first = below then below + 1 else below
  if r.holds first power then some first
  else if r.holds second power then some second
  else none

/-- The first grid, from the given one on to ever finer ones, with a number in the interval. -/
def firstGrid (r : Rounding) (power : Int) : Nat → Nat × Int
  | 0 => (r.numerator * Nat.pow 10 (-power).toNat / (r.denominator * Nat.pow 10 power.toNat), power)
  | tries + 1 => match r.onGrid? power with
    | some found => (found, power)
    | none => firstGrid r (power - 1) tries

/-- The digits of the shortest name and the power of ten of its last digit. -/
def shortest (r : Rounding) : Nat × Int := r.firstGrid (r.leading + 1) 20

end Rounding

/-- The digits of the shortest name of a positive double, given by its bits without the sign, and
the power of ten of the last digit. -/
def shortestOfBits (bits : Nat) : Nat × Int :=
  let fraction : Nat := bits % Nat.pow 2 52
  let exponent : Nat := bits / Nat.pow 2 52
  if exponent = 0 then (Rounding.ofBinary fraction (-1074) false).shortest
  else (Rounding.ofBinary (Nat.pow 2 52 + fraction) ((exponent : Int) - 1075)
    (fraction = 0 && 1 < exponent)).shortest

end RunLog.Decimal
