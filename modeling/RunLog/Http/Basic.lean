import RunLog.Base64
import RunLog.Text.Utf8
import RunLog.Url.Basic

namespace RunLog

/-- A header: its name and the bytes of its value. -/
abbrev HttpHeader := String × List UInt8

/-- A request for what a URL names. -/
structure HttpRequest where
  url : Url
  headers : List HttpHeader := []
deriving DecidableEq

/-- What came back: a status, and the body unless it broke off. -/
structure HttpReply where
  status : Nat
  body : Except String (List UInt8)

/-- A carrier of requests. -/
class HttpTransport (τ : Type) where
  /-- Sends a request and gives the reply, or the reason why none came. -/
  send : τ → HttpRequest → Except String HttpReply × τ

namespace Url

/-- The text that a part of a URL stands for, if it is UTF-8. -/
def decoded? (part : List Char) : Option String :=
  Text.decode? (percentDecode (Text.encode (String.ofList part)))

def withoutUserinfo (url : Url) : Url :=
  { url with authority := url.authority.map fun a => { a with username := [], password := none } }

/-- The user name and the password of a URL, if there are any. -/
def userinfo? (url : Url) : Option (String × Option String) := do
  let authority ← url.authority
  let username ← decoded? authority.username
  let password := authority.password.bind decoded?
  if username.isEmpty && password.isNone then none else some (username, password)

end Url

namespace HttpRequest

def authorizationHeader : String := "authorization"

def basicAuthorization (username : String) (password : Option String) : List UInt8 :=
  Text.encode ("Basic " ++
    String.ofList (Base64.encode (Text.encode (username ++ ":" ++ password.getD ""))))

/-- A request with some headers. A user name in the URL is sent as a header before them instead. -/
def get (url : Url) (headers : List HttpHeader) : HttpRequest :=
  match url.userinfo? with
  | some (username, password) =>
    ⟨url.withoutUserinfo, (authorizationHeader, basicAuthorization username password) :: headers⟩
  | none => ⟨url, headers⟩

end HttpRequest

namespace HttpReply

def isSuccess (reply : HttpReply) : Bool := reply.status / 100 = 2

/-- Does the status say that credentials are missing or not enough? -/
def isAuthStatus (status : Nat) : Bool := status = 401 || status = 403

end HttpReply

end RunLog
