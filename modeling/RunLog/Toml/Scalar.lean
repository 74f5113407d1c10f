import RunLog.Json.Basic
import RunLog.Text.Decimal
import RunLog.Text.Hex

namespace RunLog.Toml

def isWordChar (c : Char) : Bool :=
  c.isAlphanum || c = '_' || c = '+' || c = '-' || c = '.' || c = ':'

/-- A word in two parts, before and behind the first character for which the test holds. -/
def splitWord (test : Char → Bool) (word : List Char) : List Char × List Char :=
  (word.takeWhile fun c => !test c, word.dropWhile fun c => !test c)

/-- The sign in front of a number, and what follows it. -/
def splitSign : List Char → Bool × List Char
  | '-' :: rest => (true, rest)
  | '+' :: rest => (false, rest)
  | rest => (false, rest)

/-- Digits without the underscores between them; an underscore stands between two digits. -/
def plainDigits? (isDigit : Char → Bool) (afterDigit : Bool) : List Char → Option (List Char)
  | [] => if afterDigit then some [] else none
  | '_' :: rest => if afterDigit then plainDigits? isDigit false rest else none
  | c :: rest => if isDigit c then (plainDigits? isDigit true rest).map (c :: ·) else none

/-- The decimal digits of a number that begins with no zero, unless that is all of it. -/
def wholeDigits? (word : List Char) : Option (List Char) := do
  match ← plainDigits? Char.isDigit false word with
  | '0' :: _ :: _ => none
  | digits => some digits

def baseValue? (base : Nat) (digits : List Char) : Option Nat :=
  digits.foldlM (fun n c => do
    let d ← Text.hexDigit? c
    if d < base then some (n * base + d) else none) 0

def based? (base : Nat) (word : List Char) : Option Nat := do
  baseValue? base (← plainDigits? (fun c => (Text.hexDigit? c).isSome) false word)

/-- The integer that a word names; it must fit into 64 bits with a sign. -/
def integer? (word : List Char) : Option Int :=
  let bounded (n : Int) : Option Int :=
    if -9223372036854775808 ≤ n && n ≤ 9223372036854775807 then some n else none
  match word with
  | '0' :: 'x' :: rest => (based? 16 rest).bind fun n => bounded n
  | '0' :: 'o' :: rest => (based? 8 rest).bind fun n => bounded n
  | '0' :: 'b' :: rest => (based? 2 rest).bind fun n => bounded n
  | word =>
    let (negative, digits) := splitSign word
    ((wholeDigits? digits).bind (Text.digitsFrom 0)).bind fun n =>
      bounded (if negative then -(n : Int) else n)

def ofInteger (n : Int) : Json := .number { negative := n < 0, whole := n.natAbs }

/-- Infinities, and what is no number, become a number that no double holds. -/
def beyondDoubles : Json := .number { whole := 1, exponent := some 999 }

def exponent? : List Char → Option Int
  | [] => none
  | _ :: rest =>
    let (negative, digits) := splitSign rest
    (((plainDigits? Char.isDigit false digits).bind (Text.digitsFrom 0))).map fun n =>
      if negative then -(n : Int) else n

/-- Is the number with the given decimal digits and power of ten smaller than what rounds to an
infinite double? -/
def isFinite (digits : List Nat) (power : Int) : Bool :=
  let significant := digits.dropWhile (· = 0)
  let magnitude := (significant.length : Int) + power
  if significant.isEmpty || magnitude < 309 then true
  else if 309 < magnitude then false
  else
    let value := significant.foldl (fun n d => n * 10 + d) 0
    let bound := Nat.pow 2 1024 - Nat.pow 2 970
    if 0 ≤ power then value * Nat.pow 10 power.toNat < bound else value < bound * Nat.pow 10 (-power).toNat

def float? (word : List Char) : Option Json := do
  let (negative, size) := splitSign word
  if size = ['i', 'n', 'f'] || size = ['n', 'a', 'n'] then return beyondDoubles
  let (mantissa, exponentPart) := splitWord (fun c => c = 'e' || c = 'E') size
  let (wholePart, fractionPart) := splitWord (· = '.') mantissa
  if fractionPart.isEmpty && exponentPart.isEmpty then none
  let whole ← wholeDigits? wholePart
  let fraction ← if fractionPart.isEmpty then some []
    else plainDigits? Char.isDigit false (fractionPart.drop 1)
  let exponent ← if exponentPart.isEmpty then some none else (exponent? exponentPart).map some
  let digit (c : Char) : Nat := c.toNat - 48
  let fraction := fraction.map digit
  if isFinite (whole.map digit ++ fraction) (exponent.getD 0 - fraction.length) then
    return .number { negative, whole := ← Text.digitsFrom 0 whole, fraction, exponent }
  else none

/-- The number that exactly `count` digits name, if it lies between two bounds. -/
def field? (count low high : Nat) (word : List Char) : Option (Nat × List Char) := do
  let digits := word.take count
  if digits.length ≠ count then none
  let n ← Text.digits? digits
  if low ≤ n && n ≤ high then some (n, word.drop count) else none

def after? (c : Char) : List Char → Option (List Char)
  | d :: rest => if d = c then some rest else none
  | [] => none

def daysInMonth (year month : Nat) : Nat :=
  if month = 2 then (if year % 4 = 0 && (year % 100 ≠ 0 || year % 400 = 0) then 29 else 28)
  else if month = 4 || month = 6 || month = 9 || month = 11 then 30
  else 31

def afterDate? (word : List Char) : Option (List Char) := do
  let (year, word) ← field? 4 0 9999 word
  let (month, word) ← field? 2 1 12 (← after? '-' word)
  let (_, word) ← field? 2 1 (daysInMonth year month) (← after? '-' word)
  return word

def afterTime? (word : List Char) : Option (List Char) := do
  let (_, word) ← field? 2 0 23 word
  let (_, word) ← field? 2 0 59 (← after? ':' word)
  let (_, word) ← field? 2 0 60 (← after? ':' word)
  match word with
  | '.' :: c :: rest => if c.isDigit then some (rest.dropWhile Char.isDigit) else none
  | word => some word

def isOffset : List Char → Bool
  | ['Z'] | ['z'] => true
  | c :: rest => (c = '+' || c = '-') && (do
      let (_, rest) ← field? 2 0 23 rest
      let (_, rest) ← field? 2 0 59 (← after? ':' rest)
      if rest.isEmpty then some () else none).isSome
  | [] => false

/-- Is a word a time of day, perhaps with its distance from UTC? -/
def isTime (zoned : Bool) (word : List Char) : Bool :=
  match afterTime? word with
  | some [] => true
  | some rest => zoned && isOffset rest
  | none => false

def isDate (word : List Char) : Bool := afterDate? word = some []

/-- Is a word a date, a time of day or both? -/
def isDateOrTime (word : List Char) : Bool :=
  isTime false word || match afterDate? word with
    | some [] => true
    | some (c :: rest) => (c = 'T' || c = 't') && isTime true rest
    | none => false

/-- The name under which a date or a time stands alone in an object. -/
def dateKey : String := "$__toml_private_datetime"

def ofDate (word : List Char) : Json := .fields [(dateKey, .text (String.ofList word))]

def wordValue? (word : List Char) : Option Json :=
  if word = ['t', 'r', 'u', 'e'] then some (.bool true)
  else if word = ['f', 'a', 'l', 's', 'e'] then some (.bool false)
  else if isDateOrTime word then some (ofDate word)
  else match float? word with
    | some value => some value
    | none => (integer? word).map ofInteger

end RunLog.Toml
