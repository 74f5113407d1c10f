import RunLog.Url.Percent

namespace RunLog

/-- Where a URL points to on the network. -/
structure Authority where
  username : List Char := []
  password : Option (List Char) := none
  host : List Char
  /-- The port, unless it is the usual one of the scheme. -/
  port : Option Nat := none
deriving DecidableEq

/-- The path of a URL: segments behind slashes, or a text without structure. -/
inductive UrlPath where
  | segments (parts : List (List Char))
  | whole (text : List Char)
deriving DecidableEq

/-- A URL in its one written form: every part is kept as it is written, with its escapes. -/
structure Url where
  scheme : List Char
  authority : Option Authority := none
  path : UrlPath
  query : Option (List Char) := none
  fragment : Option (List Char) := none
deriving DecidableEq

namespace Authority

/-- The user name and the password in front of a host, if there are any. -/
def userinfo (a : Authority) : List Char :=
  let password := match a.password with
    | some password => ':' :: password
    | none => []
  if a.username.isEmpty && a.password.isNone then [] else a.username ++ password ++ ['@']

def text (a : Authority) : List Char :=
  let port := match a.port with
    | some port => ':' :: Nat.toDigits 10 port
    | none => []
  a.userinfo ++ a.host ++ port

end Authority

namespace UrlPath

def text : UrlPath → List Char
  | segments parts => parts.flatMap ('/' :: ·)
  | whole text => text

end UrlPath

namespace Url

/-- The path behind what comes before it. A path that begins with two slashes would be read as an
authority, so without one a dot is put in front. -/
def beforeQuery (url : Url) : List Char :=
  match url.authority, url.path.text with
  | some authority, path => '/' :: '/' :: authority.text ++ path
  | none, '/' :: '/' :: rest => '/' :: '.' :: '/' :: '/' :: rest
  | none, path => path

def chars (url : Url) : List Char :=
  let query := match url.query with
    | some query => '?' :: query
    | none => []
  let fragment := match url.fragment with
    | some fragment => '#' :: fragment
    | none => []
  url.scheme ++ ':' :: url.beforeQuery ++ query ++ fragment

/-- The written form of a URL, as a string. -/
def text (url : Url) : String := String.ofList url.chars

def schemeName (url : Url) : String := String.ofList url.scheme

/-- The URL with more parameters behind those that its query has. -/
def addPairs (url : Url) (pairs : List (String × String)) : Url :=
  { url with query := some (appendPairs (url.query.getD []) pairs) }

end Url

end RunLog
