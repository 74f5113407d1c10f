import RunLog.Loki.Config
import RunLog.Loki.LogQl

namespace RunLog.Loki

def queryRangePath : String := "/loki/api/v1/query_range"

def formatQueryPath : String := "/loki/api/v1/format_query"

def Config.query (config : Config) (scope : RunScope) : RunQuery :=
  ⟨scope, config.serviceName, config.serviceNamespace⟩

/-- The URL of a request for up to `limit` lines from `windowStart` on. -/
def RunQuery.requestUrl (query : RunQuery) (baseUrl : String) (windowStart : LineId)
    (limit : Nat) : Except ConfigError Url :=
  let endpoint := Text.dropSlashes baseUrl ++ queryRangePath
  match Url.parseWith endpoint (query.pairs windowStart limit) with
  | .ok url => .ok url
  | .error e => .error (.invalidUrl "loki" endpoint e.message)

end RunLog.Loki
