import RunLog.Json.Basic
import RunLog.Text.Hex

namespace RunLog.Json

/-- A character inside a string: quotes, backslashes and control characters are escaped. -/
def escapeChar (c : Char) : List Char :=
  match c with
  | '"' => ['\\', '"']
  | '\\' => ['\\', '\\']
  | '\x08' => ['\\', 'b']
  | '\x0c' => ['\\', 'f']
  | '\n' => ['\\', 'n']
  | '\r' => ['\\', 'r']
  | '\t' => ['\\', 't']
  | c =>
    if c.toNat < 0x20 then
      ['\\', 'u', '0', '0', Text.hexChar (c.toNat / 16), Text.hexChar (c.toNat % 16)]
    else [c]

def quoted (s : String) : List Char := '"' :: s.toList.flatMap escapeChar ++ ['"']

def decimal (n : Nat) : List Char := Nat.toDigits 10 n

def numeralText (n : Numeral) : List Char :=
  (if n.negative then ['-'] else []) ++ decimal n.whole ++
    (if n.fraction.isEmpty then [] else '.' :: n.fraction.map fun d => Char.ofNat (48 + d)) ++
    match n.exponent with
    | none => []
    | some e => 'e' :: (if e < 0 then ['-'] else []) ++ decimal e.natAbs

def joined : List (List Char) → List Char
  | [] => []
  | [item] => item
  | item :: rest => item ++ ',' :: joined rest

mutual

def compact : Json → List Char
  | null => ['n', 'u', 'l', 'l']
  | bool true => ['t', 'r', 'u', 'e']
  | bool false => ['f', 'a', 'l', 's', 'e']
  | number n => numeralText n
  | string s => quoted (s.getD "")
  | array items => '[' :: joined (compactItems items) ++ [']']
  | object fields => '\x7b' :: joined (compactFields fields) ++ ['\x7d']

def compactItems : List Json → List (List Char)
  | [] => []
  | item :: rest => compact item :: compactItems rest

def compactFields : List (Key × Json) → List (List Char)
  | [] => []
  | (key, value) :: rest =>
    (quoted (key.text.getD "") ++ ':' :: compact value) :: compactFields rest

end

/-- A line break and the blanks before an item of the given depth. -/
def lineBreak (depth : Nat) : List Char := '\n' :: List.replicate (2 * depth) ' '

/-- Items on lines of their own between two brackets; without items the brackets stand alone. -/
def block (opening closing : Char) (depth : Nat) : List (List Char) → List Char
  | [] => [opening, closing]
  | items =>
    opening :: joined (items.map (lineBreak (depth + 1) ++ ·)) ++ lineBreak depth ++ [closing]

mutual

/-- The text of a value that stands at the given depth, with its items on lines of their own. -/
def pretty (depth : Nat) : Json → List Char
  | array items => block '[' ']' depth (prettyItems (depth + 1) items)
  | object fields => block '\x7b' '\x7d' depth (prettyFields (depth + 1) fields)
  | value => compact value

def prettyItems (depth : Nat) : List Json → List (List Char)
  | [] => []
  | item :: rest => pretty depth item :: prettyItems depth rest

def prettyFields (depth : Nat) : List (Key × Json) → List (List Char)
  | [] => []
  | (key, value) :: rest =>
    (quoted (key.text.getD "") ++ ':' :: ' ' :: pretty depth value) :: prettyFields depth rest

end

/-- The text of a value without blanks, as a string. -/
def toCompact (value : Json) : String := String.ofList value.compact

/-- The text of a value with its items on lines of their own, as a string. -/
def toPretty (value : Json) : String := String.ofList (value.pretty 0)

end RunLog.Json
