import RunLog.Url.Basic
import RunLog.Url.Host

namespace RunLog

namespace Url

/-- How a scheme treats what follows it. Behind a special one any number of slashes or backslashes stands
before the host, which must not be empty, and the path begins with a slash. -/
inductive SchemeKind where
  | file
  | special
  | plain
deriving DecidableEq

def schemeKind (scheme : List Char) : SchemeKind :=
  match String.ofList scheme with
  | "file" => .file
  | "http" | "https" | "ws" | "wss" | "ftp" => .special
  | _ => .plain

def usualPort? (scheme : List Char) : Option Nat :=
  match String.ofList scheme with
  | "http" | "ws" => some 80
  | "https" | "wss" => some 443
  | "ftp" => some 21
  | _ => none

/-- The text without control characters and spaces at its ends, and without tabs and line breaks
anywhere. -/
def cleaned (text : List Char) : List Char :=
  let atEnd (c : Char) : Bool := c.toNat ≤ 0x20
  let trimmed := ((text.dropWhile atEnd).reverse.dropWhile atEnd).reverse
  trimmed.filter fun c => c ≠ '\t' && c ≠ '\n' && c ≠ '\r'

def isSchemeChar (c : Char) : Bool := c.isAlphanum || c = '+' || c = '-' || c = '.'

/-- The scheme in lower case, and what follows its colon. -/
def splitScheme (text : List Char) : Option (List Char × List Char) :=
  match text with
  | [] => none
  | c :: _ =>
    if c.isAlpha then
      match text.dropWhile isSchemeChar with
      | ':' :: rest => some ((text.takeWhile isSchemeChar).map Char.toLower, rest)
      | _ => none
    else none

def endsAuthority (kind : SchemeKind) (c : Char) : Bool :=
  c = '/' || c = '?' || c = '#' || (kind ≠ .plain && c = '\\')

/-- A slash of the path; a special scheme takes a backslash for one. -/
def isSlash (kind : SchemeKind) (c : Char) : Bool := c = '/' || (kind ≠ .plain && c = '\\')

/-- The text before the first character for which the test holds, and the rest from there. -/
def splitAtFirst (test : Char → Bool) (text : List Char) : List Char × List Char :=
  (text.takeWhile fun c => !test c, text.dropWhile fun c => !test c)

/-- What stands before the last at sign, if there is one, and what follows it. -/
def splitUserinfo (text : List Char) : Option (List Char) × List Char :=
  if text.contains '@' then
    let reversed := text.reverse
    (some ((reversed.dropWhile (· ≠ '@')).drop 1).reverse, (reversed.takeWhile (· ≠ '@')).reverse)
  else (none, text)

/-- The user name and the password before the at sign; an empty password counts as none. -/
def userinfo (text : List Char) : List Char × Option (List Char) :=
  let name := text.takeWhile (· ≠ ':')
  let password := (text.dropWhile (· ≠ ':')).drop 1
  (percentEncode userinfoSet name,
    if password.isEmpty then none else some (percentEncode userinfoSet password))

/-- The host, and what follows it: a colon outside brackets ends it. -/
def splitHost (inBrackets : Bool) : List Char → List Char × List Char
  | [] => ([], [])
  | c :: rest =>
    if c = ':' && !inBrackets then ([], c :: rest)
    else
      let inBrackets := if c = '[' then true else if c = ']' then false else inBrackets
      let (host, rest) := splitHost inBrackets rest
      (c :: host, rest)

/-- The number of a port, of which every digit counts up to the one that makes it too large. -/
def portNumber? (n : Nat) : List Char → Option Nat
  | [] => some n
  | c :: rest =>
    if '0' ≤ c && c ≤ '9' then
      let n := n * 10 + (c.toNat - 48)
      if 65535 < n then none else portNumber? n rest
    else none

/-- The port behind a colon, none where it is the usual one. -/
def port? (scheme : List Char) (text : List Char) : Except UrlError (Option Nat) :=
  match portNumber? 0 text with
  | none => .error .invalidPort
  | some n => .ok (if text.isEmpty || usualPort? scheme = some n then none else some n)

def host (kind : SchemeKind) (text : List Char) : Except UrlError (List Char) :=
  if kind = .plain then opaqueHost text
  else if text.isEmpty then .error .emptyHost
  else specialHost text

/-- The authority that a text before the path gives; `atEnd` tells that the URL ends with it. -/
def authorityOf (scheme : List Char) (kind : SchemeKind) (text : List Char) (atEnd : Bool) :
    Except UrlError Authority := do
  let (user, rest) := splitUserinfo text
  -- An at sign alone announces a host, and the URL goes on without one.
  if user = some [] && rest.isEmpty && !atEnd then throw .emptyHost
  let (username, password) := userinfo (user.getD [])
  let (hostText, behind) := splitHost false rest
  let host ← host kind hostText
  -- Only a plain scheme comes here without a host: then nothing may stand around it.
  if host.isEmpty && (!behind.isEmpty || !username.isEmpty || password.isSome) then
    throw .emptyHost
  let port ← match behind with
    | ':' :: digits => port? scheme digits
    | _ => pure none
  return { username, password, host, port }

def isSingleDot (segment : List Char) : Bool :=
  segment = ['.'] || String.ofList (segment.map Char.toLower) = "%2e"

def isDoubleDot (segment : List Char) : Bool :=
  match String.ofList (segment.map Char.toLower) with
  | ".." | ".%2e" | "%2e." | "%2e%2e" => true
  | _ => false

def isDriveLetter (segment : List Char) : Bool :=
  match segment with
  | [c, d] => c.isAlpha && (d = ':' || d = '|')
  | _ => false

def isNormalDriveLetter (segment : List Char) : Bool :=
  match segment with
  | [c, ':'] => c.isAlpha
  | _ => false

/-- Leaves the last segment, but not a drive. -/
def shorten (kind : SchemeKind) (reversed : List (List Char)) : List (List Char) :=
  match reversed with
  | [drive] => if kind = .file && isNormalDriveLetter drive then [drive] else []
  | _ :: rest => rest
  | [] => []

/-- Adds a segment to those before it, the latest of which comes first. -/
def addSegment (kind : SchemeKind) (reversed : List (List Char)) (isLast : Bool)
    (segment : List Char) : List (List Char) :=
  if isDoubleDot segment then
    let above := shorten kind reversed
    if isLast then [] :: above else above
  else if isSingleDot segment then
    if isLast then [] :: reversed else reversed
  else if kind = .file && reversed.isEmpty && isDriveLetter segment then
    [segment.take 1 ++ [':']]
  else segment :: reversed

def addSegments (kind : SchemeKind) (reversed : List (List Char)) :
    List (List Char) → List (List Char)
  | [] => reversed
  | [segment] => addSegment kind reversed true segment
  | segment :: rest => addSegments kind (addSegment kind reversed false segment) rest

def splitPath (kind : SchemeKind) : List Char → List (List Char)
  | [] => [[]]
  | c :: rest =>
    if isSlash kind c then [] :: splitPath kind rest
    else match splitPath kind rest with
      | [] => [[c]]
      | segment :: segments => (c :: segment) :: segments

/-- Segments without the empty ones in front; the last segment stays. -/
def dropEmptyFront : List (List Char) → List (List Char)
  | [] :: segment :: rest => dropEmptyFront (segment :: rest)
  | segments => segments

/-- The path that a text gives, without its first slash. -/
def pathOf (kind : SchemeKind) (text : List Char) : UrlPath :=
  let segments := (splitPath kind text).map (percentEncode pathSet)
  let kept := (addSegments kind [] segments).reverse
  .segments (if kind = .file then dropEmptyFront kept else kept)

def pathAfterAuthority (kind : SchemeKind) (text : List Char) : UrlPath :=
  match text with
  | [] => if kind = .plain then .segments [] else .segments [[]]
  | c :: rest => pathOf kind (if isSlash kind c then rest else text)

def withEnd (url : Url) (kind : SchemeKind) (text : List Char) : Url :=
  let set := if kind = .plain then querySet else specialQuerySet
  let (front, behind) := splitAtFirst (· = '#') text
  { url with
    query := match front with
      | '?' :: query => some (percentEncode set query)
      | _ => none
    fragment := match behind with
      | '#' :: fragment => some (percentEncode fragmentSet fragment)
      | _ => none }

def afterSlashes (scheme : List Char) (kind : SchemeKind) (text : List Char) :
    Except UrlError Url := do
  let (authorityText, rest) := splitAtFirst (endsAuthority kind) text
  let authority ← authorityOf scheme kind authorityText rest.isEmpty
  let (pathText, rest) := splitAtFirst (fun c => c = '?' || c = '#') rest
  return withEnd { scheme, authority := some authority, path := pathAfterAuthority kind pathText }
    kind rest

/-- The host of a file URL, which is empty for this machine. -/
def fileHost (text : List Char) : Except UrlError (List Char) := do
  if text.isEmpty then return []
  let host ← specialHost text
  return if host = "localhost".toList then [] else host

/-- A URL of the scheme for files, from behind its colon. -/
def fileUrl (scheme : List Char) (text : List Char) : Except UrlError Url := do
  let (front, rest) := splitAtFirst (fun c => c = '?' || c = '#') text
  let finish (host : List Char) (pathText : List Char) : Url :=
    let path := pathAfterAuthority .file pathText
    let host := match path with
      | .segments (first :: _) => if isNormalDriveLetter first then [] else host
      | _ => host
    withEnd { scheme, authority := some { host }, path } .file rest
  match front with
  | a :: b :: tail =>
    if isSlash .file a && isSlash .file b then
      let (hostText, pathText) := splitAtFirst (isSlash .file) tail
      -- A drive letter is the beginning of the path, not a host.
      if isDriveLetter hostText then return finish [] tail
      return finish (← fileHost hostText) pathText
    else return finish [] front
  | front => return finish [] front

/-- A URL of a plain scheme, from behind its colon. -/
def plainUrl (scheme : List Char) (text : List Char) : Except UrlError Url :=
  match text with
  | '/' :: '/' :: rest => afterSlashes scheme .plain rest
  | text =>
    let (front, rest) := splitAtFirst (fun c => c = '?' || c = '#') text
    let path := match front with
      | '/' :: tail => pathOf .plain tail
      | front => .whole (percentEncode controlSet front)
    .ok (withEnd { scheme, path } .plain rest)

def parse (text : String) : Except UrlError Url :=
  match splitScheme (cleaned text.toList) with
  | none => .error .relativeWithoutBase
  | some (scheme, rest) => match schemeKind scheme with
    | .file => fileUrl scheme rest
    | .special => afterSlashes scheme .special (rest.dropWhile (isSlash .special))
    | .plain => plainUrl scheme rest

/-- The URL that a text names, with parameters behind those that its query has. -/
def parseWith (text : String) (pairs : List (String × String)) : Except UrlError Url :=
  (parse text).map (·.addPairs pairs)

end Url

end RunLog
