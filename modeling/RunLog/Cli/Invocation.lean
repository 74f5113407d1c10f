import RunLog.Cli.Arguments
import RunLog.Instant.Rfc3339
import RunLog.Scope
import RunLog.Settings

namespace RunLog.Cli

/-- A choice of the lines to print. -/
structure Grep where
  pattern : String
  ignoreCase : Bool
  inverted : Bool
deriving DecidableEq

/-- A piece of work. -/
inductive Command where
  | check
  /-- Print a log from an offset on, with the cursors of a session. -/
  | cat (scope : RunScope) (skip : UInt64) (session : Option String) (grep : Option Grep)
  | query (scope : RunScope)
  /-- Forget a session, or the offsets of one log in it. -/
  | forget (session : String) (key : Option StreamKey)

/-- A piece of work and the settings for it. -/
structure Invocation where
  /-- The path of the file with the settings. -/
  config : Option String
  overrides : Overrides
  command : Command

/-- The number of 32 bits that a text names; a zero may have a minus sign. -/
def countOf? (s : String) : Option Nat :=
  match s.toList with
  | '-' :: digits => (Text.digits? digits).bind fun n => if n = 0 then some 0 else none
  | _ => Text.natural? 4294967295 s

def sizeOf? (s : String) : Option Nat := Text.natural? 18446744073709551615 s

def textOption (name : String) : OptionSpec := ⟨name, none, .value fun _ => true⟩

def formOption {α : Type} (name : String) (read : String → Option α) : OptionSpec :=
  ⟨name, none, .value fun s => (read s).isSome⟩

def globalOptions : List OptionSpec := [
  ⟨"config", none, .value fun s => !s.isEmpty⟩, textOption "url", textOption "tenant",
  formOption "page-size" sizeOf?, formOption "max-queries" countOf?,
  ⟨"verbose", some 'v', .counted⟩, ⟨"help", some 'h', .inquiry .help⟩]

def outerOptions : List OptionSpec :=
  globalOptions ++ [⟨"version", some 'V', .inquiry .version⟩]

def scopeOptions : List OptionSpec :=
  [textOption "trace", formOption "start" Instant.parse?, formOption "end" Instant.parse?,
    textOption "step"]

/-- The options of a command, and how many words it has; none if there is no such command. -/
def commandForm? : String → Option (List OptionSpec × Nat)
  | "check" => some ([], 0)
  | "cat" => some (scopeOptions ++ [formOption "skip" sizeOf?, textOption "session",
      textOption "grep", ⟨"ignore-case", some 'i', .once⟩, ⟨"invert-match", none, .once⟩], 2)
  | "query" => some (scopeOptions, 2)
  | "forget" =>
    some ([textOption "pipeline", formOption "run" sizeOf?, textOption "step"], 1)
  | _ => none

def required {α : Type} : Option α → Except Refusal α
  | some a => .ok a
  | none => .error .usage

namespace Arguments

def read? {α : Type} (args : Arguments) (name : String) (read : String → Option α) : Option α :=
  (args.value? name).bind read

def scope (args : Arguments) : Except Refusal RunScope := do
  match args.words with
  | [pipeline, run] =>
    return { pipeline, run := ← required (Text.word? run)
             trace := ← required (args.value? "trace"), step := args.value? "step"
             startTime := ← required (args.read? "start" Instant.parse?)
             endTime := args.read? "end" Instant.parse? }
  | _ => throw .usage

/-- The choice of lines; what refines it makes no sense without it. -/
def grep (args : Arguments) : Except Refusal (Option Grep) :=
  let ignoreCase := args.has "ignore-case"
  let inverted := args.has "invert-match"
  match args.value? "grep" with
  | some pattern => .ok (some ⟨pattern, ignoreCase, inverted⟩)
  | none => if ignoreCase || inverted then .error .usage else .ok none

/-- The log to forget, named by its pipeline and its run. -/
def key (args : Arguments) : Except Refusal (Option StreamKey) :=
  match args.value? "pipeline", args.read? "run" Text.word?, args.value? "step" with
  | some pipeline, some run, step => .ok (some ⟨pipeline, run, step⟩)
  | none, none, none => .ok none
  | _, _, _ => .error .usage

def command (args : Arguments) : String → Except Refusal Command
  | "check" => .ok .check
  | "cat" => do
    return .cat (← args.scope) ((args.read? "skip" Text.word?).getD 0) (args.value? "session")
      (← args.grep)
  | "query" => return .query (← args.scope)
  | "forget" => do
    match args.words with
    | [session] => return .forget session (← args.key)
    | _ => throw .usage
  | _ => .error .usage

end Arguments

namespace Invocation

/-- What a command line asks for. Options behind the command count more than those before it. -/
def parse (line : List String) : Except Refusal Invocation := do
  let isCommand (name : String) := name = "help" || (commandForm? name).isSome
  let (outer, rest) ← scan outerOptions isCommand 0 {} line
  match rest with
  | [] => throw .usage
  | name :: rest => match commandForm? name with
    -- The one command without a form is `help`.
    | none => throw (.inquiry .help)
    | some (options, room) =>
      let (inner, _) ← scan (globalOptions ++ options) (fun _ => false) room {} rest
      let command ← inner.command name
      let all : Arguments := { options := inner.options ++ outer.options }
      let overrides : Overrides := {
        url := all.value? "url"
        tenant := all.value? "tenant"
        pageSize := all.read? "page-size" sizeOf?
        maxQueries := all.read? "max-queries" countOf? }
      return ⟨all.value? "config", overrides, command⟩

def session? (invocation : Invocation) : Option String :=
  match invocation.command with
  | .cat _ _ session _ => session
  | .forget session _ => some session
  | .check | .query _ => none

end Invocation

end RunLog.Cli
