import RunLog.Scope

namespace RunLog.Loki

def escapeChar : Char → List Char
  | '\\' => ['\\', '\\']
  | '"' => ['\\', '"']
  | '\n' => ['\\', 'n']
  | c => [c]

/-- A value as it stands between quotes: what would end or break the quoted string is escaped. -/
def escapeLabel (value : String) : String := String.ofList (value.toList.flatMap escapeChar)

def labelEquals (label value : String) : String := label ++ "=\"" ++ escapeLabel value ++ "\""

def serviceNameLabel : String := "service_name"

def serviceNamespaceLabel : String := "service_namespace"

def traceField : String := "trace_id"

def pipelineField : String := "ci_pipeline_id"

def runField : String := "ci_pipeline_run_number"

def stepField : String := "jenkins_pipeline_step_id"

/-- A log to be asked for: whose it is and which service wrote it. -/
structure RunQuery where
  scope : RunScope
  serviceName : String
  serviceNamespace : Option String

namespace RunQuery

/-- The stream selector: the service, with its namespace in front if it has one. -/
def selector (query : RunQuery) : String :=
  let namespacePart := match query.serviceNamespace with
    | some ns => labelEquals serviceNamespaceLabel ns ++ ", "
    | none => ""
  "\x7b" ++ namespacePart ++ labelEquals serviceNameLabel query.serviceName ++ "\x7d"

def conditions (query : RunQuery) : String :=
  let stepPart := match query.scope.step with
    | some step => ", " ++ labelEquals stepField step
    | none => ""
  labelEquals traceField query.scope.trace ++ ", " ++
    labelEquals pipelineField query.scope.pipeline ++ ", " ++
    runField ++ "=" ++ toString query.scope.run.toNat ++ stepPart

/-- The whole query, which keeps nothing of a line but its text. -/
def logql (query : RunQuery) : String :=
  query.selector ++ " | " ++ query.conditions ++ " | keep __line__"

/-- The parameters of a request for up to `limit` lines from `windowStart` on. -/
def pairs (query : RunQuery) (windowStart : LineId) (limit : Nat) : List (String × String) :=
  let endPart := match query.scope.endId with
    | some id => [("end", id.text)]
    | none => []
  [("query", query.logql), ("start", windowStart.text)] ++ endPart ++
    [("direction", "forward"), ("limit", toString limit)]

end RunQuery

end RunLog.Loki
