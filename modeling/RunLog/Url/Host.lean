import RunLog.Url.Idna
import RunLog.Url.Percent

namespace RunLog.Url

/-- Why a text is no URL. -/
inductive UrlError where
  | relativeWithoutBase
  | emptyHost
  | invalidPort
  | invalidIpv4
  | invalidIpv6
  | invalidDomain
  | invalidCharacter
deriving DecidableEq

namespace UrlError

def message : UrlError → String
  | relativeWithoutBase => "relative URL without a base"
  | emptyHost => "empty host"
  | invalidPort => "invalid port number"
  | invalidIpv4 => "invalid IPv4 address"
  | invalidIpv6 => "invalid IPv6 address"
  | invalidDomain => "invalid international domain name"
  | invalidCharacter => "invalid domain character"

end UrlError

/-- The parts of a text between separators, of which there is at least one. -/
def splitOn (separator : Char) : List Char → List (List Char)
  | [] => [[]]
  | c :: rest =>
    if c = separator then [] :: splitOn separator rest
    else match splitOn separator rest with
      | [] => [[c]]
      | part :: parts => (c :: part) :: parts

def joinWith (separator : Char) : List (List Char) → List Char
  | [] => []
  | [part] => part
  | part :: parts => part ++ separator :: joinWith separator parts

def decimal (n : Nat) : List Char := Nat.toDigits 10 n

def number? (base : Nat) (digits : List Char) : Option Nat :=
  digits.foldlM (fun n c => do
    let d ← Text.hexDigit? c
    if d < base then some (n * base + d) else none) 0

/-- The number that a part of an IPv4 address names: hexadecimal behind `0x`, octal behind `0`. -/
def ipv4Number? (part : List Char) : Option Nat :=
  match part with
  | [] => none
  | '0' :: 'x' :: rest | '0' :: 'X' :: rest => number? 16 rest
  | '0' :: c :: rest => number? 8 (c :: rest)
  | part => number? 10 part

def endsInNumber (domain : List Char) : Bool :=
  let decides (part : List Char) : Bool :=
    (!part.isEmpty && part.all fun c => '0' ≤ c && c ≤ '9') || (ipv4Number? part).isSome
  match (splitOn '.' domain).reverse with
  | [] :: last :: _ => decides last
  | [[]] => false
  | last :: _ => decides last
  | [] => false

/-- The IPv4 address that a domain names; its last part fills all bytes that the others leave. -/
def ipv4? (domain : List Char) : Option Nat := do
  let parts := splitOn '.' domain
  -- A dot at the end is that of the root.
  let parts := if parts.getLast? = some [] then parts.dropLast else parts
  if 4 < parts.length then none
  let numbers ← parts.mapM ipv4Number?
  let last ← numbers.getLast?
  let others := numbers.dropLast
  if others.any (255 < ·) || Nat.pow 256 (4 - others.length) ≤ last then none
  else
    let high := others.foldl (fun n part => n * 256 + part) 0
    some (high * Nat.pow 256 (4 - others.length) + last)

def ipv4Text (address : Nat) : List Char :=
  joinWith '.' ([3, 2, 1, 0].map fun i => decimal (address / Nat.pow 256 i % 256))

/-- Four hexadecimal digits at most, as the number that they name. -/
def piece? (part : List Char) : Option Nat :=
  if part.isEmpty || 4 < part.length then none else number? 16 part

/-- A decimal number of an IPv4 address inside an IPv6 address: no zero in front, below 256. -/
def byte? (part : List Char) : Option Nat :=
  match part with
  | [] => none
  | '0' :: _ :: _ => none
  | part => if 3 < part.length then none else (number? 10 part).filter (· < 256)

/-- The two pieces of an IPv4 address at the end of an IPv6 address. -/
def embedded? (part : List Char) : Option (List Nat) := do
  match ← (splitOn '.' part).mapM byte? with
  | [a, b, c, d] => some [a * 256 + b, c * 256 + d]
  | _ => none

/-- The pieces between colons; only the last one may be an IPv4 address. -/
def pieces? : List (List Char) → Option (List Nat)
  | [] => some []
  | [part] => if part.contains '.' then embedded? part else (piece? part).map ([·])
  | part :: rest => do return (← piece? part) :: (← pieces? rest)

/-- The two sides of the double colon, if there is one. -/
def splitDouble : List Char → Option (List Char × List Char)
  | [] => none
  | ':' :: ':' :: rest => some ([], rest)
  | c :: rest => (splitDouble rest).map fun (before, after) => (c :: before, after)

/-- The eight pieces of an IPv6 address; a double colon stands for one zero or more. -/
def ipv6? (text : List Char) : Option (List Nat) :=
  let side (cs : List Char) : Option (List Nat) :=
    if cs.isEmpty then some [] else pieces? (splitOn ':' cs)
  match splitDouble text with
  | none => (pieces? (splitOn ':' text)).filter (·.length = 8)
  | some (before, after) => do
    -- An IPv4 address stands at the end, so not before the double colon.
    if before.contains '.' then none
    let front ← side before
    let back ← side after
    if 7 < front.length + back.length then none
    else some (front ++ List.replicate (8 - front.length - back.length) 0 ++ back)

def zeroRun (pieces : List Nat) : Nat := (pieces.takeWhile (· = 0)).length

/-- Where the longest run of at least two zeros begins, and how long it is; the first one counts. -/
def longestZeros (pieces : List Nat) : Option (Nat × Nat) :=
  (List.range pieces.length).foldl (fun best i =>
    let run := zeroRun (pieces.drop i)
    match best with
    | some (_, length) => if length < run then some (i, run) else best
    | none => if 1 < run then some (i, run) else none) none

def pieceText (n : Nat) : List Char := Nat.toDigits 16 n

/-- An IPv6 address in brackets, with its longest run of zeros left out. -/
def ipv6Text (pieces : List Nat) : List Char :=
  let join (pieces : List Nat) := joinWith ':' (pieces.map pieceText)
  '[' :: (match longestZeros pieces with
    | some (i, length) => join (pieces.take i) ++ ':' :: ':' :: join (pieces.drop (i + length))
    | none => join pieces) ++ [']']

/-- The host in brackets, if the text opens one. -/
def bracketed? (text : List Char) : Option (Except UrlError (List Char)) :=
  match text with
  | '[' :: rest =>
    if rest.getLast? = some ']' then
      match ipv6? rest.dropLast with
      | some pieces => some (.ok (ipv6Text pieces))
      | none => some (.error .invalidIpv6)
    else some (.error .invalidIpv6)
  | _ => none

/-- The host of a special scheme, in its one written form. -/
def specialHost (text : List Char) : Except UrlError (List Char) :=
  match bracketed? text with
  | some host => host
  | none =>
    match String.fromUTF8? ⟨(percentDecode (text.flatMap String.utf8EncodeChar)).toArray⟩ with
    | none => .error .invalidDomain
    | some decoded => match Idna.toAscii? decoded.toList with
      | none => .error .invalidDomain
      | some [] => .error .emptyHost
      | some domain =>
        if endsInNumber domain then
          match ipv4? domain with
          | some address => .ok (ipv4Text address)
          | none => .error .invalidIpv4
        else .ok domain

def isForbidden (c : Char) : Bool :=
  c = '\x00' || c = '\t' || c = '\n' || c = '\r' || c = ' ' || c = '#' || c = '/' || c = ':' ||
    c = '<' || c = '>' || c = '?' || c = '@' || c = '[' || c = '\\' || c = ']' || c = '^' || c = '|'

def opaqueHost (text : List Char) : Except UrlError (List Char) :=
  match bracketed? text with
  | some host => host
  | none =>
    if text.any isForbidden then .error .invalidCharacter
    else .ok (percentEncode controlSet text)

end RunLog.Url
