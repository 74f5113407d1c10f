import RunLog.Instant
import RunLog.Text.Blank
import RunLog.Text.Decimal

namespace RunLog.Instant

def isLeapYear (year : Int) : Bool :=
  year % 4 = 0 && (year % 100 ≠ 0 || year % 400 = 0)

def monthLengths (year : Int) : List Nat :=
  [31, if isLeapYear year then 29 else 28, 31, 30, 31, 30, 31, 31, 30, 31, 30, 31]

/-- The days from the beginning of the year 1 to that of another one. -/
def daysBeforeYear (year : Int) : Int :=
  let past := year - 1
  365 * past + past / 4 - past / 100 + past / 400

/-- The days from the beginning of 1970 to a date, if the calendar has it. -/
def daysToDate? (year : Int) (month day : Nat) : Option Int := do
  let lengths := monthLengths year
  let length ← if month = 0 then none else lengths[month - 1]?
  if day = 0 || length < day then none
  let before := (lengths.take (month - 1)).foldl (· + ·) 0 + (day - 1)
  return daysBeforeYear year - daysBeforeYear 1970 + before

def skipBlanks (text : List Char) : List Char := text.dropWhile Text.isBlank

def number? (width : Nat) (text : List Char) : Option (Nat × List Char) := do
  let digits := (text.take width).takeWhile Char.isDigit
  return (← Text.digits? digits, text.drop digits.length)

def field? (least greatest : Nat) (text : List Char) : Option (Nat × List Char) := do
  let (n, rest) ← number? 2 (skipBlanks text)
  if least ≤ n && n ≤ greatest then some (n, rest) else none

def mark? (mark : Char) (text : List Char) : Option (List Char) :=
  match skipBlanks text with
  | c :: rest => if c = mark then some rest else none
  | [] => none

/-- Reads a year: four digits at most, or any number of them behind a sign. -/
def year? (text : List Char) : Option (Int × List Char) :=
  match skipBlanks text with
  | '-' :: rest => (number? rest.length rest).map fun (n, rest) => (-(n : Int), rest)
  | '+' :: rest => (number? rest.length rest).map fun (n, rest) => ((n : Int), rest)
  | text => (number? 4 text).map fun (n, rest) => ((n : Int), rest)

/-- Reads a date: the days from the beginning of 1970. -/
def date? (text : List Char) : Option (Int × List Char) := do
  let (year, text) ← year? text
  let (month, text) ← field? 1 12 (← mark? '-' text)
  let (day, text) ← field? 1 31 (← mark? '-' text)
  return (← daysToDate? year month day, text)

/-- Reads a fraction of a second, if there is one, in nanoseconds; what is finer is cut off. -/
def fraction? : List Char → Option (Nat × List Char)
  | '.' :: text => do
    let (n, rest) ← number? 9 text
    let written := text.length - rest.length
    return (n * Nat.pow 10 (9 - written), rest.dropWhile Char.isDigit)
  | text => some (0, text)

/-- Reads a time: the seconds of the day and the nanoseconds. A second 60 extends the one before. -/
def time? (text : List Char) : Option (Nat × Nat × List Char) := do
  let (hour, text) ← field? 0 23 text
  let (minute, text) ← field? 0 59 (← mark? ':' text)
  let (second, text) ← field? 0 60 (← mark? ':' text)
  let (nanos, text) ← fraction? text
  let extra := if second = 60 then nanosPerSecond else 0
  return (hour * 3600 + minute * 60 + min second 59, nanos + extra, text)

def twoDigits? (greatest : Nat) : List Char → Option (Nat × List Char)
  | a :: b :: rest => do
    let n ← Text.digits? [a, b]
    if n ≤ greatest then some (n, rest) else none
  | _ => none

/-- Reads an offset from UTC in seconds: a name of UTC, or hours and minutes behind a sign. -/
def offset? (text : List Char) : Option (Int × List Char) :=
  if (text.take 3).map Char.toUpper = ['U', 'T', 'C'] then some (0, text.drop 3)
  else match text with
    | [] => none
    | sign :: rest =>
      if sign = 'Z' || sign = 'z' then some (0, rest)
      else if sign = '+' || sign = '-' || sign = '−' then do
        let (hours, rest) ← twoDigits? 23 rest
        let rest := rest.dropWhile fun c => c = ':' || Text.isBlank c
        let (minutes, rest) ← twoDigits? 59 rest
        let seconds : Int := hours * 3600 + minutes * 60
        return (if sign = '+' then seconds else -seconds, rest)
      else none

/-- The instant that a text names, after RFC 3339 but less strict: blanks may stand before every number and
mark, and numbers may be shorter. Its local time must lie in the calendar too. -/
def parse? (text : String) : Option Instant := do
  let (days, rest) ← date? text.toList
  match rest with
  | [] => none
  | c :: rest =>
    if c ≠ 'T' && c ≠ 't' && c ≠ ' ' then none
    let (seconds, nanos, rest) ← time? rest
    let (offset, rest) ← offset? (skipBlanks rest)
    if !rest.all Text.isBlank then none
    let localTime ← ofParts? (days * secondsPerDay + seconds) nanos
    ofParts? (localTime.seconds - offset) nanos

end RunLog.Instant
