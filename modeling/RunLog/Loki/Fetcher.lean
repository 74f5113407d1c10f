import RunLog.Http.Basic
import RunLog.Loki.Config
import RunLog.Loki.Request
import RunLog.Loki.Response
import RunLog.Source.Basic

namespace RunLog.Loki

def tenantHeader : String := "X-Scope-OrgID"

/-- The header with the name of the program, and the name. -/
def userAgent : HttpHeader := ("user-agent", Text.encode "runscope/0.1.0")

def unsendable : String := "builder error"

def AuthHeaders.toList (headers : AuthHeaders) : List HttpHeader :=
  (headers.authorization.toList.map fun v => (HttpRequest.authorizationHeader, v)) ++
    headers.tenant.toList.map fun v => (tenantHeader, v)

/-- A request with the credentials and the tenant of the settings, if they can be sent. -/
def Config.request? (config : Config) (url : Url) : Option HttpRequest :=
  (AuthHeaders.of? config.credentials config.tenant).map fun headers =>
    .get url (headers.toList ++ [userAgent])

/-- A fetcher of the pages of one log. -/
structure Fetcher (τ : Type) where
  transport : τ
  config : Config
  query : RunQuery

/-- The page that a reply holds, or the error it stands for. -/
def pageOf (reply : HttpReply) : Except RetrievalError Page :=
  match reply.body with
  | .error reason => .error (.unreachable reason)
  | .ok body =>
    let body := Text.decodeLossy body
    if !reply.isSuccess then .error (.query reply.status body)
    else (QueryResponse.parseBody body).map fun lines => ⟨lines, reply.status⟩

namespace Fetcher

variable {τ : Type} [HttpTransport τ]

def fetch (fetcher : Fetcher τ) (windowStart : LineId) (limit : Nat) :
    Except RetrievalError Page × Fetcher τ :=
  match fetcher.query.requestUrl fetcher.config.baseUrl windowStart limit with
  | .error e => (.error (.unreachable e.message), fetcher)
  | .ok url => match fetcher.config.request? url with
    | none => (.error (.unreachable unsendable), fetcher)
    | some request => match HttpTransport.send fetcher.transport request with
      | (.error reason, transport) => (.error (.unreachable reason), { fetcher with transport })
      | (.ok reply, transport) => (pageOf reply, { fetcher with transport })

instance : PageFetcher (Fetcher τ) where
  fetch := fetch
  close := id

end Fetcher

end RunLog.Loki
