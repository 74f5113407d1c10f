import RunLog.Text.Hex

namespace RunLog.Url

def percentByte (b : UInt8) : List Char :=
  ['%', Text.hexCapital (b.toNat / 16), Text.hexCapital (b.toNat % 16)]

/-- A character, written byte by byte where the set asks for it. -/
def percentChar (set : Char → Bool) (c : Char) : List Char :=
  if set c then (String.utf8EncodeChar c).flatMap percentByte else [c]

/-- A text, written byte by byte where the set asks for it. -/
def percentEncode (set : Char → Bool) (cs : List Char) : List Char := cs.flatMap (percentChar set)

def controlSet (c : Char) : Bool := c.toNat < 0x20 || 0x7E < c.toNat

def fragmentSet (c : Char) : Bool :=
  controlSet c || c = ' ' || c = '"' || c = '<' || c = '>' || c = '\x60'

def querySet (c : Char) : Bool :=
  controlSet c || c = ' ' || c = '"' || c = '#' || c = '<' || c = '>'

def specialQuerySet (c : Char) : Bool := querySet c || c = '\''

def pathSet (c : Char) : Bool :=
  fragmentSet c || c = '#' || c = '?' || c = '\x7b' || c = '\x7d'

def userinfoSet (c : Char) : Bool :=
  pathSet c || c = '/' || c = ':' || c = ';' || c = '=' || c = '@' || c = '[' || c = '\\' ||
    c = ']' || c = '^' || c = '|'

/-- The bytes of a text in which a percent sign with two digits stands for one byte. -/
def percentDecode : List UInt8 → List UInt8
  | 37 :: a :: b :: rest =>
    match Text.hexDigit? (Char.ofNat a.toNat), Text.hexDigit? (Char.ofNat b.toNat) with
    | some x, some y => UInt8.ofNat (16 * x + y) :: percentDecode rest
    | _, _ => 37 :: percentDecode (a :: b :: rest)
  | a :: rest => a :: percentDecode rest
  | [] => []

/-- Letters, digits and a few marks stand for themselves in form encoding. -/
def formPlain (c : Char) : Bool :=
  ('a' ≤ c && c ≤ 'z') || ('A' ≤ c && c ≤ 'Z') || ('0' ≤ c && c ≤ '9') ||
    c = '*' || c = '-' || c = '.' || c = '_'

/-- A character in form encoding; a space becomes a plus sign. -/
def formChar (c : Char) : List Char :=
  if formPlain c then [c]
  else if c = ' ' then ['+']
  else (String.utf8EncodeChar c).flatMap percentByte

def formEncode (s : String) : List Char := s.toList.flatMap formChar

def formPair (pair : String × String) : List Char := formEncode pair.1 ++ '=' :: formEncode pair.2

/-- Parameters in form encoding behind what a query already holds. -/
def appendPairs (query : List Char) (pairs : List (String × String)) : List Char :=
  pairs.foldl (fun query pair =>
    (if query.isEmpty then [] else query ++ ['&']) ++ formPair pair) query

end RunLog.Url
