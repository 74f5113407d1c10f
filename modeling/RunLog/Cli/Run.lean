import RunLog.Cli.Invocation
import RunLog.LineFilter
import RunLog.Loki.Explore
import RunLog.Loki.Retriever
import RunLog.SessionStore
import RunLog.Sink.Filtered

/-!
What the program does: it prints, takes notes for the reader, keeps sessions, and sends requests;
all of that is a state, which a failure leaves as it is then.
-/

namespace RunLog.Cli

/-- Why a piece of work could not be done. -/
inductive Failure where
  | unreadableConfig (path reason : String)
  | invalidConfig (path : String)
  | config (error : Loki.ConfigError)
  | pattern (text : String) (error : Pattern.PatternError)
  | retrieval (error : RetrievalError)
  | transfer (error : TransferError)
  | unsaved (session : String) (error : TransferError)
  | setup
  | beyondCalendar

namespace Failure

/-- The text shown for a failure, with its causes. -/
def message : Failure → String
  | unreadableConfig path reason => "failed to read config file " ++ path ++ ": " ++ reason
  | invalidConfig path => "invalid config file " ++ path ++ ": no settings of this form"
  | config error => error.message
  | pattern text error => "invalid --grep pattern '" ++ text ++ "': " ++ error.message
  | retrieval error =>
    if error.isSetupError then
      "run `runscope check` to verify the Loki setup: " ++ error.message
    else error.message
  | transfer error => error.message
  | unsaved session error => "failed to save session '" ++ session ++ "': " ++ error.message
  | setup => "setup check failed"
  | beyondCalendar => "the run lies outside of the calendar"

def note : Failure → String
  | beyondCalendar => beyondCalendar.message
  | failure => "Error: " ++ failure.message

def code : Failure → Nat
  | beyondCalendar => 101
  | _ => 1

end Failure

/-- What surrounds the program. -/
structure Environment where
  /-- The content of the file at a path, or the reason why it cannot be read. -/
  contentOf : String → Except String (List UInt8)
  /-- The file with the settings that are used where no other is named, if it exists. -/
  defaultConfig : Option (String × Except String (List UInt8))
  now : Instant

/-- What the program has done so far. -/
structure Work (τ : Type) where
  transport : τ
  sessions : SessionStore
  /-- What was printed. -/
  output : List UInt8 := []
  /-- What was told beside it, line by line. -/
  notes : List String := []

/-- A part of the work, which may fail. -/
abbrev Job (τ α : Type) := ExceptT Failure (StateM (Work τ)) α

namespace Job

variable {τ α ε : Type}

def ofExcept (asFailure : ε → Failure) : Except ε α → Job τ α
  | .ok a => pure a
  | .error e => throw (asFailure e)

def print (line : String) : Job τ Unit :=
  modify fun w => { w with output := w.output ++ Text.encode (line ++ "\n") }

def note (line : String) : Job τ Unit :=
  modify fun w => { w with notes := w.notes ++ [line] }

end Job

open Job

variable {τ : Type}

def settingsIn (path : String) : Except String (List UInt8) → Except Failure Loki.Config
  | .error reason => .error (.unreadableConfig path reason)
  | .ok content => match Text.decode? content with
    | none => .error (.unreadableConfig path "stream did not contain valid UTF-8")
    | some text => match Settings.parse? text with
      | some config => .ok config
      | none => .error (.invalidConfig path)

/-- The settings of an invocation: those of the named file or of the usual one, if it is there, and
what the command line says in their place. -/
def loadConfig (environment : Environment) (invocation : Invocation) :
    Except Failure Loki.Config := do
  let file := match invocation.config with
    | some path => some (path, environment.contentOf path)
    | none => environment.defaultConfig
  let config ← match file with
    | some (path, content) => settingsIn path content
    | none => pure {}
  return invocation.overrides.apply config

def loadSession (name : String) : Job τ CursorCache := do
  ofExcept .transfer ((← get).sessions.load name)

def saveSession (name : String) (cursors : CursorCache) : Job τ Unit := do
  match (← get).sessions.save name cursors with
  | .ok sessions => modify fun w => { w with sessions }
  | .error e =>
    modify fun w => { w with sessions := w.sessions.unsaved name }
    throw (.unsaved name e)

/-- Forgets a session, or the offsets of one log in it. -/
def forget (session : String) : Option StreamKey → Job τ Unit
  | none => do
    let (known, sessions) ← ofExcept .transfer ((← get).sessions.clear session)
    modify fun w => { w with sessions }
    if !known then note ("no saved session '" ++ session ++ "'")
  | some key => do
    let (known, cursors) := (← loadSession session).forget key
    if known then saveSession session cursors
    else note ("no offsets for " ++ key.text ++ " in session '" ++ session ++ "'")

def query (config : Loki.Config) (scope : RunScope) (now : Instant) : Job τ Unit := do
  ofExcept .config config.validate
  let asked := config.query scope
  let url ← ofExcept .config (asked.requestUrl config.baseUrl scope.startId config.pageSize)
  let some link := Loki.viewLink? config scope now | throw .beyondCalendar
  print asked.logql
  print url.text
  print (link.message ++ ": " ++ link.url)

variable [HttpTransport τ]

def check (config : Loki.Config) : Job τ Unit := do
  let retriever ← ofExcept .config (Loki.Retriever.of? config (← get).transport)
  let (outcome, transport) := retriever.checkSetup
  modify fun w => { w with transport }
  print outcome.text
  if !outcome.isPassed then throw .setup

def lineFilter (grep : Grep) : Except Failure LineFilter :=
  match LineFilter.ofPattern grep.pattern grep.ignoreCase grep.inverted with
  | .ok filter => .ok filter
  | .error e => .error (.pattern grep.pattern e)

/-- Prints a log that was opened, and saves the session whether or not all of it could be read. -/
def printLog (log : ViewerLog (PagedSource (Loki.Fetcher τ))) (cursors : CursorView)
    (skip : UInt64) (session : Option String) (filter : Option LineFilter) : Job τ Unit := do
  let sink : FilteredSink ByteBuffer := { inner := {}, keeps := filter.map LineFilter.keeps }
  let (copied, log, sink) := log.writeTo cursors skip sink
  let (stream, cursors) := log.stream.close cursors
  let (flushed, sink) := ByteSink.flush sink
  modify fun w => { w with
    transport := stream.lines.source.fetcher.transport
    output := w.output ++ sink.inner.bytes }
  ofExcept .transfer flushed
  if let some name := session then saveSession name cursors.cache
  let offset ← ofExcept .transfer copied
  note ("offset: " ++ toString offset.toNat)

def cat (config : Loki.Config) (scope : RunScope) (skip : UInt64) (session : Option String)
    (grep : Option Grep) (now : Instant) : Job τ Unit := do
  let filter ← ofExcept id (grep.mapM lineFilter)
  let cursors ← match session with
    | some name => loadSession name
    | none => pure .empty
  let retriever ← ofExcept .config (Loki.Retriever.of? config (← get).transport)
  match retriever.retrieve scope cursors with
  | (.refused e source, _) =>
    modify fun w => { w with transport := source.fetcher.transport }
    throw (.retrieval e)
  | (.opened log, cursors) =>
    -- The log carries a link to its view, so it needs one.
    if (Loki.viewLink? config scope now).isNone then throw .beyondCalendar
    printLog log cursors skip session filter

def perform (environment : Environment) (invocation : Invocation) : Job τ Unit := do
  let config ← ofExcept id (loadConfig environment invocation)
  match invocation.command with
  | .check => check config
  | .query scope => query config scope environment.now
  | .forget session key => forget session key
  | .cat scope skip session grep => cat config scope skip session grep environment.now

/-- Does a piece of work and answers the exit code; a failure is told at the end. -/
def run (environment : Environment) (invocation : Invocation) (work : Work τ) : Nat × Work τ :=
  match (perform environment invocation).run work with
  | (.ok (), work) => (0, work)
  | (.error failure, work) =>
    (failure.code, { work with notes := work.notes ++ [failure.note] })

def usageLines : List String := [
  "Usage: runscope [OPTIONS] <COMMAND>",
  "",
  "Commands:",
  "  check                          Check that the backend can be asked",
  "  cat <PIPELINE> <RUN>           Print the log of a run or of a step",
  "  query <PIPELINE> <RUN>         Print how a log would be asked for",
  "  forget <SESSION>               Forget a session, or one log in it",
  "",
  "Options: --config <PATH> --url <URL> --tenant <TENANT> --page-size <N> --max-queries <N> -v",
  "cat and query: --trace <ID> --start <TIME> [--end <TIME>] [--step <STEP>]",
  "cat: [--skip <BYTES>] [--session <NAME>] [--grep <PATTERN> [-i] [--invert-match]]",
  "forget: [--pipeline <PIPELINE> --run <RUN> [--step <STEP>]]"]

def versionLine : String := "runscope 0.1.0"

/-- Does what a command line asks for and answers the exit code. -/
def runLine (environment : Environment) (line : List String) (work : Work τ) : Nat × Work τ :=
  let printed (lines : List String) : Work τ :=
    { work with output := work.output ++ lines.flatMap fun l => Text.encode (l ++ "\n") }
  match Invocation.parse line with
  | .ok invocation => run environment invocation work
  | .error .usage => (2, { work with notes := work.notes ++ usageLines })
  | .error (.inquiry .help) => (0, printed usageLines)
  | .error (.inquiry .version) => (0, printed [versionLine])

end RunLog.Cli
