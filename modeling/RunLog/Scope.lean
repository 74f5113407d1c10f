import RunLog.Line

namespace RunLog

/-- Names one log stream: a pipeline run, or a step of it. -/
structure StreamKey where
  pipeline : String
  run : UInt64
  step : Option String
deriving DecidableEq, Inhabited

namespace StreamKey

/-- The printed form of a key, `pipeline#run` or `pipeline#run/step`. -/
def text (key : StreamKey) : String :=
  let base := key.pipeline ++ "#" ++ toString key.run.toNat
  match key.step with
  | some step => base ++ "/" ++ step
  | none => base

/-- Keys are ordered by pipeline, then run, then step; a whole run comes before its steps. -/
def compare (a b : StreamKey) : Ordering :=
  (Ord.compare a.pipeline b.pipeline).then <| (Ord.compare a.run b.run).then <|
    match a.step, b.step with
    | none, none => .eq
    | none, some _ => .lt
    | some _, none => .gt
    | some s, some t => Ord.compare s t

instance : Ord StreamKey := ⟨compare⟩

end StreamKey

/-- The log to read: its stream, its trace, and the time in which it was written. -/
structure RunScope where
  pipeline : String
  run : UInt64
  trace : String
  step : Option String
  startTime : Instant
  /-- Absent while the run goes on. -/
  endTime : Option Instant

namespace RunScope

def key (scope : RunScope) : StreamKey := ⟨scope.pipeline, scope.run, scope.step⟩

/-- A scope with an end is complete: its log grows no more. -/
def isComplete (scope : RunScope) : Bool := scope.endTime.isSome

def startId (scope : RunScope) : LineId := .ofInstant scope.startTime

def endId (scope : RunScope) : Option LineId := scope.endTime.map .ofInstant

def overall (scope : RunScope) : RunScope := { scope with step := none }

end RunScope

/-- A link shown above a log, to the place where the backend itself shows it. -/
structure ViewLink where
  backendName : String
  url : String
  iconUrl : Option String := none
deriving DecidableEq

namespace ViewLink

def message (link : ViewLink) : String := "View logs in " ++ link.backendName

end ViewLink

end RunLog
