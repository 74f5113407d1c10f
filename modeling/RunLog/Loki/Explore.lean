import RunLog.Json.Canonical
import RunLog.Loki.Config
import RunLog.Loki.LogQl

namespace RunLog.Loki

/-- The name under which Grafana keeps the pane that a link opens. -/
def paneName : String := "NZj"

/-- The query that Grafana shows; it hangs on how the logs were written. -/
def exploreLogql (format : LogFormat) (config : Config) (scope : RunScope) : String :=
  match format with
  | .v3Otel =>
    "\x7b" ++ labelEquals serviceNameLabel config.serviceName ++ "\x7d | " ++
      labelEquals traceField scope.trace
  | .v2JsonOtel =>
    let job := match config.serviceNamespace with
      | some ns => ns ++ "/" ++ config.serviceName
      | none => config.serviceName
    "\x7b" ++ labelEquals "job" job ++ "\x7d | json | " ++ labelEquals "traceid" scope.trace ++
      " | line_format \"\x7b\x7b.body\x7d\x7d\""

/-- What the pane shows, with keys in order. -/
def panes (grafana : GrafanaConfig) (config : Config) (scope : RunScope) (first last : Instant) :
    Json :=
  let datasource := Json.text grafana.datasource
  let query := Json.fields [
    ("datasource", .fields [("type", .text "loki"), ("uid", datasource)]),
    ("editorMode", .text "code"),
    ("expr", .text (exploreLogql grafana.logFormat config scope)),
    ("queryType", .text "range"),
    ("refId", .text "A")]
  .fields [(paneName, .fields [
    ("datasource", datasource),
    ("queries", .array [query]),
    ("range", .fields [
      ("from", .text (toString first.epochMillis)),
      ("to", .text (toString last.epochMillis))])])]

/-- The link to Grafana's view of a log, from a day before the run to a day behind it, where the calendar
has these days. A run that goes on is shown up to `now`. -/
def exploreUrl? (grafana : GrafanaConfig) (config : Config) (scope : RunScope) (now : Instant) :
    Option String := do
  let first ← scope.startTime.previousDay?
  let last ← (scope.endTime.getD now).nextDay?
  let endpoint := Text.dropSlashes (Text.trim grafana.baseUrl) ++ "/explore"
  let pairs := [("panes", (panes grafana config scope first last).toCompact),
    ("schemaVersion", "1"), ("orgId", grafana.orgId)]
  match Url.parseWith endpoint pairs with
  | .ok url => some url.text
  | .error _ => some endpoint

/-- The link shown above a log: to Grafana if there is one, else to Loki. -/
def viewLink? (config : Config) (scope : RunScope) (now : Instant) : Option ViewLink :=
  match config.grafana with
  | none => some { backendName := "Loki", url := config.baseUrl }
  | some grafana => do
    let url ← exploreUrl? grafana config scope now
    let icon := Text.dropSlashes grafana.baseUrl ++ "/public/img/grafana_icon.svg"
    some { backendName := grafana.backendName, url, iconUrl := some icon }

end RunLog.Loki
