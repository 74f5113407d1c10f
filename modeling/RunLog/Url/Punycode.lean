namespace RunLog.Url.Punycode

def digitChar (d : Nat) : Char := if d < 26 then Char.ofNat (97 + d) else Char.ofNat (22 + d)

/-- The value of a digit, in letters of either case. -/
def digitValue? (c : Char) : Option Nat :=
  if 'a' ≤ c ∧ c ≤ 'z' then some (c.toNat - 97)
  else if 'A' ≤ c ∧ c ≤ 'Z' then some (c.toNat - 65)
  else if '0' ≤ c ∧ c ≤ '9' then some (c.toNat - 22)
  else none

/-- The least value of a digit that is not the last one of its number, at place `k`. -/
def threshold (k bias : Nat) : Nat := min 26 (max 1 (k - bias))

/-- Divides by 35 until little is left, and counts. -/
def scaleDown (delta k : Nat) : Nat :=
  if 455 < delta then scaleDown (delta / 35) (k + 36) else k + 36 * delta / (delta + 38)
termination_by delta

/-- The bias behind a distance, which was the first one or one of `count` code points so far. -/
def adapt (delta count : Nat) (first : Bool) : Nat :=
  let delta := if first then delta / 700 else delta / 2
  scaleDown (delta + delta / count) 0

/-- A distance in digits, from place `k` on. -/
def digits (bias q k : Nat) : List Char :=
  let t := threshold k bias
  if q < t then [digitChar q]
  else digitChar (t + (q - t) % (36 - t)) :: digits bias ((q - t) / (36 - t)) (k + 36)
termination_by q
decreasing_by
  rename_i h
  have h1 : 1 ≤ threshold k bias := by unfold threshold; omega
  exact Nat.lt_of_le_of_lt (Nat.div_le_self _ _) (by omega)

/-- How far an encoding has come: the next code point to insert, the distance since the last
insertion, the bias, and the number of code points in place. -/
structure Progress where
  n : Nat
  delta : Nat
  bias : Nat
  count : Nat
  first : Bool

/-- Passes one character of the text in the round that inserts the code point `state.n`. -/
def encodeChar (state : Progress × List Char) (c : Char) : Progress × List Char :=
  let (p, out) := state
  if c.toNat < p.n then ({ p with delta := p.delta + 1 }, out)
  else if c.toNat = p.n then
    ({ p with delta := 0, bias := adapt p.delta (p.count + 1) p.first, count := p.count + 1,
              first := false },
      out ++ digits p.bias p.delta 36)
  else (p, out)

/-- Inserts the code points of a text, one round for each in ascending order. -/
def encodeRounds (text : List Char) : List Nat → Progress → List Char → List Char
  | [], _, out => out
  | m :: rest, p, out =>
    let p := { p with delta := p.delta + (m - p.n) * (p.count + 1), n := m }
    let (p, out) := text.foldl encodeChar (p, out)
    encodeRounds text rest { p with delta := p.delta + 1, n := m + 1 } out

/-- The code points outside ASCII of a text, in ascending order. -/
def beyondAscii (text : List Char) : List Nat :=
  (((text.map Char.toNat).filter (128 ≤ ·)).mergeSort (· ≤ ·)).eraseDups

def encode (text : List Char) : List Char :=
  let basic := text.filter fun c => c.toNat < 128
  let start := if basic.isEmpty then [] else basic ++ ['-']
  encodeRounds text (beyondAscii text) ⟨128, 0, 72, basic.length, true⟩ start

/-- How far a decoding has come: the last code point inserted, the place behind it, the bias, the
text so far, and the distance being read with the weight and the place of its next digit. -/
structure Decoding where
  n : Nat := 128
  i : Nat := 0
  bias : Nat := 72
  output : List Char := []
  distance : Nat := 0
  weight : Nat := 1
  place : Nat := 36

namespace Decoding

def insert (d : Decoding) : Option Decoding :=
  let count := d.output.length + 1
  let n := d.n + (d.i + d.distance) / count
  let i := (d.i + d.distance) % count
  if n.isValidChar then
    some { n, i := i + 1, bias := adapt d.distance count (d.i = 0)
           output := d.output.take i ++ Char.ofNat n :: d.output.drop i }
  else none

/-- Takes one digit; the last digit of a distance inserts a code point. -/
def step (d : Decoding) (c : Char) : Option Decoding := do
  let digit ← digitValue? c
  let t := threshold d.place d.bias
  let d := { d with distance := d.distance + digit * d.weight }
  if digit < t then d.insert
  else some { d with weight := d.weight * (36 - t), place := d.place + 36 }

end Decoding

/-- The text that Punycode stands for: ASCII before the last hyphen, distances behind it. -/
def decode? (code : List Char) : Option (List Char) := do
  let reversed := code.reverse
  let distances := (reversed.takeWhile (· ≠ '-')).reverse
  let basic := ((reversed.dropWhile (· ≠ '-')).drop 1).reverse
  let d ← distances.foldlM Decoding.step { output := basic : Decoding }
  -- At any other place the text broke off inside a distance.
  if d.place = 36 then some d.output else none

end RunLog.Url.Punycode
