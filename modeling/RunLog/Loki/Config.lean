import RunLog.Loki.Credentials
import RunLog.Retrieval
import RunLog.Source.Paged
import RunLog.Url.Parser

namespace RunLog.Loki

/-- How the logs were written into Loki, which decides how Grafana finds them. -/
inductive LogFormat where
  /-- Labels and metadata, as Loki 3 stores OpenTelemetry logs. -/
  | v3Otel
  /-- One JSON document in each line, as exporters for Loki 2 write them. -/
  | v2JsonOtel
deriving DecidableEq

/-- A Grafana to link to. -/
structure GrafanaConfig where
  baseUrl : String := ""
  orgId : String := "1"
  datasource : String := "grafanacloud-logs"
  logFormat : LogFormat := .v3Otel
  backendName : String := "Grafana"
deriving DecidableEq

/-- Where logs are and how much of them to read. -/
structure Config where
  url : String := ""
  credentials : Option Credentials := none
  tenant : Option String := none
  serviceName : String := "jenkins"
  serviceNamespace : Option String := none
  pageSize : Nat := 1000
  maxQueries : Nat := 100
  maxLines : Nat := 18446744073709551615
  timeoutSeconds : Nat := 30
  acceptInvalidCertificates : Bool := false
  truncationMarker : Bool := true
  tailKb : UInt64 := ViewerLog.defaultTailKb
  grafana : Option GrafanaConfig := none
deriving DecidableEq

def checkUrl (place url : String) : Except ConfigError Unit :=
  match Url.parse url with
  | .error e => .error (.invalidUrl place url e.message)
  | .ok parsed =>
    if parsed.schemeName = "http" || parsed.schemeName = "https" then .ok ()
    else .error (.invalidUrl place url ("unsupported scheme '" ++ parsed.schemeName ++ "'"))

namespace Config

/-- The URL without blanks around it and without slashes at its end. -/
def baseUrl (config : Config) : String := Text.dropSlashes (Text.trim config.url)

def limits (config : Config) : Limits :=
  (({} : Limits).withPageSize config.pageSize).withMaxQueries config.maxQueries
    |>.withMaxLines config.maxLines

def streamOptions (config : Config) : StreamOptions :=
  { marker := config.truncationMarker, tailKb := config.tailKb }

def validate (config : Config) : Except ConfigError Unit := do
  if config.baseUrl.isEmpty then throw (.missingField "url")
  checkUrl "loki" config.baseUrl
  if Text.isBlankText config.serviceName then throw (.missingField "service_name")
  if let some credentials := config.credentials then credentials.validate
  if let some tenant := config.tenant then
    if Text.isBlankText tenant then throw (.missingField "tenant_id")
  if config.pageSize = 0 then throw (.invalidLimit "page_size must be at least 1")
  if config.maxQueries = 0 then throw (.invalidLimit "max_queries must be at least 1")
  if let some grafana := config.grafana then
    if Text.isBlankText grafana.baseUrl then throw (.missingField "grafana.base_url")
    checkUrl "grafana" (Text.trim grafana.baseUrl)

end Config

end RunLog.Loki
