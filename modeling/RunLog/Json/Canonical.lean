import RunLog.Json.Number

namespace RunLog.Json

/-- Puts a field in its place among ordered fields, over an older one with the same key. -/
def insertField {α : Type} (key : String) (value : α) : List (String × α) → List (String × α)
  | [] => [(key, value)]
  | (k, v) :: rest =>
    if key < k then (key, value) :: (k, v) :: rest
    else if key = k then (key, value) :: rest
    else (k, v) :: insertField key value rest

/-- Fields in the order of their keys, each key with its last value. -/
def orderFields {α : Type} (fields : List (String × α)) : List (String × α) :=
  fields.foldl (fun ordered e => insertField e.1 e.2 ordered) []

mutual

/-- Does a value have a meaning: no half of a surrogate pair, no number beyond the doubles, and no
more than `room` arrays and objects inside one another? -/
def isPlain (room : Nat) : Json → Bool
  | number n => n.isWordInteger || n.toFloat?.isSome
  | string s => s.isSome
  | array items => 0 < room && arePlain (room - 1) items
  | object fields => 0 < room && arePlainFields (room - 1) fields
  | _ => true

def arePlain (room : Nat) : List Json → Bool
  | [] => true
  | item :: rest => isPlain room item && arePlain room rest

def arePlainFields (room : Nat) : List (Key × Json) → Bool
  | [] => true
  | (key, value) :: rest => key.text.isSome && isPlain room value && arePlainFields room rest

end

mutual

def canonical : Json → List Char
  | number n => n.valueText?.getD []
  | array items => '[' :: joined (canonicalItems items) ++ [']']
  | object fields =>
    let texts := (orderFields (canonicalFields fields)).map fun e => quoted e.1 ++ ':' :: e.2
    '\x7b' :: joined texts ++ ['\x7d']
  | value => compact value

def canonicalItems : List Json → List (List Char)
  | [] => []
  | item :: rest => canonical item :: canonicalItems rest

def canonicalFields : List (Key × Json) → List (String × List Char)
  | [] => []
  | (key, value) :: rest => (key.text.getD "", canonical value) :: canonicalFields rest

end

/-- The one text of a value that hangs on its meaning alone: keys in order, each of them once with its last
value, and numbers by value. -/
def toCanonical (value : Json) : String := String.ofList value.canonical

end RunLog.Json
