import RunLog.Decimal.Shortest
import RunLog.Json.Writer

namespace RunLog.Numeral

def greatestWord : Nat := 18446744073709551615

/-- The value of as many leading digits as 64 bits hold, and whether they were all. -/
def leadingDigits (value : Nat) : List Nat → Nat × List Nat
  | [] => (value, [])
  | d :: rest =>
    if value * 10 + d ≤ greatestWord then leadingDigits (value * 10 + d) rest
    else (value, d :: rest)

/-- The significant digits that 64 bits hold, and the power of ten that goes with them: digits that
do not fit are dropped. -/
def significand (n : Numeral) : Nat × Int :=
  let digits := (Nat.toDigits 10 n.whole).map fun c => c.toNat - 48
  match leadingDigits 0 digits with
  | (value, []) =>
    let (value', dropped) := leadingDigits value n.fraction
    (value', -((n.fraction.length - dropped.length : Nat) : Int))
  | (value, dropped) =>
    let (value', dropped') := leadingDigits value n.fraction
    (value', (dropped.length : Int) - ((n.fraction.length - dropped'.length : Nat) : Int))

def tenTo (power : Nat) : Float := Float.ofScientific 1 false power

/-- `value * 10 ^ power` in doubles, rounded after each step; none where the result is infinite. -/
def scaled? (value : Float) (power : Int) : Option Float :=
  if 0 ≤ power then
    if 308 < power then (if value == 0.0 then some value else none)
    else
      let result := value * tenTo power.toNat
      if result.isInf then none else some result
  else if -308 ≤ power then some (value / tenTo (-power).toNat)
  else if value == 0.0 then some value
  else
    let once := value / tenTo 308
    let power := power + 308
    if -308 ≤ power then some (once / tenTo (-power).toNat)
    else if once == 0.0 then some once
    else
      let twice := once / tenTo 308
      let power := power + 308
      if -308 ≤ power then some (twice / tenTo (-power).toNat) else some 0.0

/-- The value of a number as a double; none where it is too large. -/
def toFloat? (n : Numeral) : Option Float :=
  let (value, power) := n.significand
  let written := n.exponent.getD 0
  let size :=
    if 2147483647 < written.natAbs then
      if value ≠ 0 && 0 < written then none else some 0.0
    else scaled? (Float.ofNat value) (power + written)
  size.map fun size => if n.negative then -size else size

/-- An integer that 64 bits hold, with a sign or without; a negative zero is none. -/
def isWordInteger (n : Numeral) : Bool :=
  n.isInteger &&
    if n.negative then 0 < n.whole && n.whole ≤ 9223372036854775808 else n.whole ≤ greatestWord

/-- The text of a double: positional where the point falls into or near its digits, with an
exponent otherwise, and always with a sign that it is no integer. -/
def floatText (x : Float) : List Char :=
  let bits := x.toBits.toNat
  let sign := if bits < 9223372036854775808 then [] else ['-']
  let size := bits % 9223372036854775808
  sign ++ if size = 0 then ['0', '.', '0'] else
    let (digits, power) := Decimal.shortestOfBits size
    let text := Json.decimal digits
    let point := (text.length : Int) + power
    if 0 ≤ power && point ≤ 16 then text ++ List.replicate power.toNat '0' ++ ['.', '0']
    else if 0 < point && point ≤ 16 then text.take point.toNat ++ '.' :: text.drop point.toNat
    else if -5 < point && point ≤ 0 then '0' :: '.' :: List.replicate (-point).toNat '0' ++ text
    else
      let exponent :=
        'e' :: (if point - 1 < 0 then ['-'] else []) ++ Json.decimal (point - 1).natAbs
      match text with
      | [d] => d :: exponent
      | text => text.take 1 ++ '.' :: text.drop 1 ++ exponent

/-- The text of the value of a number; none where the number is too large. -/
def valueText? (n : Numeral) : Option (List Char) :=
  if n.isWordInteger then some (Json.numeralText n) else n.toFloat?.map floatText

end RunLog.Numeral
