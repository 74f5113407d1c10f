namespace RunLog

/-- A number as it is written. -/
structure Numeral where
  negative : Bool := false
  /-- The digits before the point. -/
  whole : Nat
  /-- The digits behind the point; without a point there are none. -/
  fraction : List Nat := []
  /-- The power of ten behind the letter e, if there is one. -/
  exponent : Option Int := none
deriving DecidableEq, Inhabited

namespace Numeral

def ofNat (n : Nat) : Numeral := { whole := n }

/-- Without a point and without an exponent a numeral is an integer. -/
def isInteger (n : Numeral) : Bool := n.fraction.isEmpty && n.exponent.isNone

/-- The value of an integer without a sign that is no larger than `bound`. -/
def natural? (n : Numeral) (bound : Nat) : Option Nat :=
  if n.isInteger && !n.negative && n.whole ≤ bound then some n.whole else none

end Numeral

/-- The name of a field. Its text is `none` where an escape names half a surrogate pair. -/
structure Key where
  text : Option String
  /-- Written as it reads, without escapes. -/
  verbatim : Bool := true
deriving DecidableEq, Inhabited

/-- A JSON value as it is written: fields keep their order, repeated fields are all kept, and numbers keep
their digits. A string is `none` where an escape names half a surrogate pair: no text has such a
half, yet a value that holds it can be skipped. -/
inductive Json where
  | null
  | bool (value : Bool)
  | number (value : Numeral)
  | string (value : Option String)
  | array (items : List Json)
  | object (fields : List (Key × Json))
deriving Inhabited

namespace Json

def text (s : String) : Json := .string (some s)

def nat (n : Nat) : Json := .number (.ofNat n)

def fields (entries : List (String × Json)) : Json :=
  .object (entries.map fun e => (⟨some e.1, true⟩, e.2))

/-- A text, or null where there is none. -/
def textOrNull : Option String → Json
  | some s => text s
  | none => null

def text? : Json → Option String
  | string value => value
  | _ => none

/-- The value of a number that is an integer without sign, no larger than `bound`. -/
def natural? (bound : Nat) : Json → Option Nat
  | number value => value.natural? bound
  | _ => none

def bool? : Json → Option Bool
  | bool value => some value
  | _ => none

def items? : Json → Option (List Json)
  | array items => some items
  | _ => none

/-- The value of a field; of repeated fields the last one counts. -/
def field? (key : String) : Json → Option Json
  | object fields => (fields.reverse.find? fun e => e.1.text == some key).map Prod.snd
  | _ => none

def orNone : Json → Option Json
  | null => none
  | value => some value

end Json

end RunLog
