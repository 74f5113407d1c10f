import RunLog.Http.Basic
import RunLog.Text.Decimal

namespace RunLog

namespace HttpRequest

def lineEnd : List UInt8 := [13, 10]

/-- The name and the port of the host that a request goes to; none if it is not plain HTTP. -/
def host? (request : HttpRequest) : Option (String × Nat) := do
  if request.url.schemeName ≠ "http" then none
  let authority ← request.url.authority
  let name := authority.host.filter fun c => c ≠ '[' && c ≠ ']'
  return (String.ofList name, authority.port.getD 80)

/-- What the request line names: the path and the query. -/
def target (request : HttpRequest) : List Char :=
  let path := request.url.path.text
  let query := match request.url.query with
    | some query => '?' :: query
    | none => []
  (if path.isEmpty then ['/'] else path) ++ query

/-- The bytes of a request. It asks for version 1.0 of the protocol, in which a body ends with the
connection, unless its length was announced. -/
def wire (request : HttpRequest) : List UInt8 :=
  let host := match request.url.authority with
    | some authority => authority.host ++
        (match authority.port with
        | some port => ':' :: Nat.toDigits 10 port
        | none => [])
    | none => []
  let line (s : String) : List UInt8 := Text.encode s ++ lineEnd
  let header (h : HttpHeader) : List UInt8 := Text.encode (h.1 ++ ": ") ++ h.2 ++ lineEnd
  line ("GET " ++ String.ofList request.target ++ " HTTP/1.0") ++
    line ("host: " ++ String.ofList host) ++ line "accept: */*" ++
    request.headers.flatMap header ++ lineEnd

end HttpRequest

namespace HttpReply

/-- The head of a reply, line by line, and what follows the empty line behind it. -/
def splitHead (line : List UInt8) : List UInt8 → Option (List (List UInt8) × List UInt8)
  | [] => none
  | b :: rest =>
    if b = 10 then
      let ended := (line.dropWhile (· = 13)).reverse
      if ended.isEmpty then some ([], rest)
      else (splitHead [] rest).map fun (lines, body) => (ended :: lines, body)
    else splitHead (b :: line) rest

def status? (line : List UInt8) : Option Nat :=
  match (Text.decodeLossy line).splitOn " " with
  | version :: status :: _ =>
    if "HTTP/".isPrefixOf version then Text.digits? status.toList else none
  | _ => none

def length? (line : List UInt8) : Option Nat :=
  match (Text.decodeLossy line).splitOn ":" with
  | [name, value] =>
    if name.toLower = "content-length" then
      Text.digits? (value.toList.filter fun c => c ≠ ' ' && c ≠ '\t')
    else none
  | _ => none

def noReply : String := "the connection was closed without a reply"

def brokenBody : String := "the connection was closed before the body ended"

def ofWire (bytes : List UInt8) : Except String HttpReply :=
  match splitHead [] bytes with
  | some (first :: headers, body) => match status? first with
    | none => .error noReply
    | some status => match headers.findSome? length? with
      | some length =>
        if body.length < length then .ok ⟨status, .error brokenBody⟩
        else .ok ⟨status, .ok (body.take length)⟩
      | none => .ok ⟨status, .ok body⟩
  | _ => .error noReply

end HttpReply

end RunLog
