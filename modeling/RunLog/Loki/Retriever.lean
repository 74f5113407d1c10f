import RunLog.Http.Status
import RunLog.Loki.Fetcher

namespace RunLog.Loki

/-- The outcome of a check of the setup. -/
inductive SetupCheck where
  | passed (message : String)
  | failed (message : String)
deriving DecidableEq

namespace SetupCheck

def message : SetupCheck → String
  | passed message | failed message => message

def isPassed : SetupCheck → Bool
  | passed _ => true
  | failed _ => false

def text (check : SetupCheck) : String :=
  (if check.isPassed then "ok: " else "error: ") ++ check.message

end SetupCheck

/-- What reads logs with checked settings. -/
structure Retriever (τ : Type) where
  config : Config
  transport : τ

namespace Retriever

variable {τ : Type}

/-- A retriever, if the settings can be used. -/
def of? (config : Config) (transport : τ) : Except ConfigError (Retriever τ) := do
  config.validate
  return ⟨config, transport⟩

def backendName (retriever : Retriever τ) : String :=
  match retriever.config.grafana with
  | some grafana => grafana.backendName
  | none => "Loki"

/-- The pages of a log; nothing is fetched yet. -/
def pageSource (retriever : Retriever τ) (scope : RunScope) : PagedSource (Fetcher τ) :=
  .start ⟨retriever.transport, retriever.config, retriever.config.query scope⟩ scope.startId
    retriever.config.limits

/-- A refusal of the credentials, found out while a log is opened, is an error of the setup. -/
def openingError : RetrievalError → RetrievalError
  | .query status body =>
    if HttpReply.isAuthStatus status then
      .authentication (RetrievalError.query status body).message
    else .query status body
  | e => e

def checkReply (baseUrl : String) (reply : HttpReply) : SetupCheck :=
  if reply.isSuccess then .passed ("Connected to Loki at " ++ baseUrl)
  else
    let body := match reply.body with
      | .ok body => Text.decodeLossy body
      | .error _ => ""
    let shown := HttpStatus.text reply.status
    let told := if HttpReply.isAuthStatus reply.status then
        " rejected the credentials (" ++ shown ++ "): "
      else " answered " ++ shown ++ ": "
    .failed ("Loki at " ++ baseUrl ++ told ++ Text.trim body)

variable [HttpTransport τ]

/-- Opens the log of a scope; its offsets are taken from the cache, which from now on knows the stream.
The link that is shown above a log, and whether the run is over, are left to the caller: `viewLink?` makes
the link, and has none for a run within a day of the ends of the calendar that is viewed in Grafana. A
caller who wants the link has to give up there, although the log was opened. -/
def retrieve (retriever : Retriever τ) (scope : RunScope) (cursors : CursorCache) :
    Opening (PagedSource (Fetcher τ)) × CursorView :=
  let (handle, cache) := cursors.hold scope.key
  let opening := Opening.ofSource (retriever.pageSource scope) retriever.config.streamOptions
  let opening := match opening with
    | .opened log => .opened log
    | .refused e source => .refused (openingError e) source
  (opening, ⟨cache, some handle⟩)

def overallLog (retriever : Retriever τ) (scope : RunScope) (cursors : CursorCache) :
    Opening (PagedSource (Fetcher τ)) × CursorView :=
  retriever.retrieve scope.overall cursors

def checkSetup (retriever : Retriever τ) : SetupCheck × τ :=
  let baseUrl := retriever.config.baseUrl
  let unreachable (reason : String) : SetupCheck :=
    .failed ("Loki at " ++ baseUrl ++ " is unreachable: " ++ reason)
  let endpoint := baseUrl ++ formatQueryPath
  match Url.parseWith endpoint [("query", "\x7bfoo=\"bar\"\x7d")] with
  | .error e => (.failed ("invalid url " ++ endpoint ++ ": " ++ e.message), retriever.transport)
  | .ok url => match retriever.config.request? url with
    | none => (unreachable unsendable, retriever.transport)
    | some request => match HttpTransport.send retriever.transport request with
      | (.error reason, transport) => (unreachable reason, transport)
      | (.ok reply, transport) => (checkReply baseUrl reply, transport)

end Retriever

end RunLog.Loki
