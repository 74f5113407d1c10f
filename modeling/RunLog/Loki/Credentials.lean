import RunLog.Base64
import RunLog.Loki.ConfigError
import RunLog.Text.Blank
import RunLog.Text.Quoted
import RunLog.Text.Utf8

namespace RunLog.Loki

/-- What a request proves itself with. -/
inductive Credentials where
  | basic (username password : String)
  | bearer (token : String)
  | apiKey (key : String)
deriving DecidableEq

/-- The value of a header, byte by byte. -/
abbrev HeaderValue := List UInt8

/-- The headers by which a request says who sends it and for whom. -/
structure AuthHeaders where
  authorization : Option HeaderValue
  tenant : Option HeaderValue
deriving DecidableEq

namespace Credentials

def validate : Credentials → Except ConfigError Unit
  | basic username _ =>
    if Text.isBlankText username then .error (.invalidCredentials "basic auth username is empty")
    else .ok ()
  | bearer token =>
    if Text.isBlankText token then .error (.invalidCredentials "bearer token is empty") else .ok ()
  | apiKey key =>
    if Text.isBlankText key then .error (.invalidCredentials "api key is empty") else .ok ()

def authorization : Credentials → HeaderValue
  | basic username password =>
    Text.encode ("Basic " ++
      String.ofList (Base64.encode (Text.encode (username ++ ":" ++ password))))
  | bearer token => Text.encode ("Bearer " ++ token)
  | apiKey key => Text.encode ("ApiKey " ++ key)

def hidden : String := "\"***\""

/-- Credentials as they are shown: everything but the secret. -/
def redacted : Credentials → String
  | basic username _ =>
    "Basic \x7b username: " ++ Text.quoted username ++ ", password: " ++ hidden ++ " \x7d"
  | bearer _ => "Bearer \x7b token: " ++ hidden ++ " \x7d"
  | apiKey _ => "ApiKey \x7b key: " ++ hidden ++ " \x7d"

end Credentials

namespace AuthHeaders

/-- A header value must not hold a control character other than a tab. -/
def isHeaderByte (b : UInt8) : Bool := (32 ≤ b && b ≠ 127) || b = 9

def checked? (value : HeaderValue) : Option HeaderValue :=
  if value.all isHeaderByte then some value else none

/-- The headers for credentials and a tenant; none if one of them cannot be sent. -/
def of? (credentials : Option Credentials) (tenant : Option String) : Option AuthHeaders := do
  let authorization ← match credentials with
    | some c => (checked? c.authorization).map some
    | none => some none
  let tenant ← match tenant with
    | some t => (checked? (Text.encode t)).map some
    | none => some none
  return ⟨authorization, tenant⟩

end AuthHeaders

end RunLog.Loki
