namespace RunLog.Cli

/-- What is asked for instead of work. -/
inductive Inquiry where
  | help
  | version
deriving DecidableEq

/-- Why a command line names no work to do. -/
inductive Refusal where
  | usage
  | inquiry (asked : Inquiry)
deriving DecidableEq

/-- How an option is used. -/
inductive OptionUse where
  /-- Once, with a value that passes the test. -/
  | value (accepts : String → Bool)
  | once
  | counted
  | inquiry (asked : Inquiry)

/-- An option that a command line may have. -/
structure OptionSpec where
  /-- The name behind two hyphens. -/
  long : String
  /-- The letter behind one hyphen, for options without a value. -/
  short : Option Char := none
  use : OptionUse

/-- What a command line says. -/
structure Arguments where
  /-- The options with their values. -/
  options : List (String × String) := []
  /-- The other words, in order. -/
  words : List String := []

namespace Arguments

def value? (args : Arguments) (name : String) : Option String := args.options.lookup name

def has (args : Arguments) (name : String) : Bool := (args.value? name).isSome

/-- Adds an option. Only options that are counted may come again. -/
def addOption (args : Arguments) (spec : OptionSpec) (value : String) :
    Except Refusal Arguments :=
  match spec.use with
  | .inquiry asked => .error (.inquiry asked)
  | .counted => .ok { args with options := (spec.long, value) :: args.options }
  | .once =>
    if args.has spec.long then .error .usage
    else .ok { args with options := (spec.long, value) :: args.options }
  | .value accepts =>
    if args.has spec.long || !accepts value then .error .usage
    else .ok { args with options := (spec.long, value) :: args.options }

/-- Adds words, as far as there is room for them. -/
def addWords (args : Arguments) (room : Nat) (words : List String) : Except Refusal Arguments :=
  if args.words.length + words.length ≤ room then .ok { args with words := args.words ++ words }
  else .error .usage

def addLetters (specs : List OptionSpec) (args : Arguments) : List Char → Except Refusal Arguments
  | [] => .ok args
  | c :: rest => match specs.find? fun spec => spec.short = some c with
    | some spec => do addLetters specs (← args.addOption spec "") rest
    | none => .error .usage

end Arguments

/-- What an argument is by its looks. -/
inductive Shape where
  | onlyWords
  | long (name : String) (value : Option String)
  | letters (letters : List Char)
  | word

/-- What an argument is by its looks; a single hyphen is a word. -/
def shapeOf (arg : String) : Shape :=
  match arg.toList with
  | ['-', '-'] => .onlyWords
  | '-' :: '-' :: cs =>
    let value := match cs.dropWhile (· ≠ '=') with
      | _ :: value => some (String.ofList value)
      | [] => none
    .long (String.ofList (cs.takeWhile (· ≠ '='))) value
  | '-' :: c :: cs => .letters (c :: cs)
  | _ => .word

def isValue (arg : String) : Bool :=
  match shapeOf arg with
  | .word => true
  | _ => false

/-- Reads a command line up to the first word that is a command, which stays with what follows it.
There is room for some other words. -/
def scan (specs : List OptionSpec) (isCommand : String → Bool) (room : Nat) (args : Arguments) :
    List String → Except Refusal (Arguments × List String)
  | [] => .ok (args, [])
  | arg :: rest => match shapeOf arg with
    | .onlyWords => do return (← args.addWords room rest, [])
    | .letters letters => do scan specs isCommand room (← args.addLetters specs letters) rest
    | .word => do
      if isCommand arg then return (args, arg :: rest)
      scan specs isCommand room (← args.addWords room [arg]) rest
    | .long name value => match specs.find? fun spec => spec.long = name with
      | none => .error .usage
      | some spec => match spec.use, value, rest with
        | .value _, some value, rest => do
          scan specs isCommand room (← args.addOption spec value) rest
        | .value _, none, value :: rest => do
          if !isValue value then throw .usage
          scan specs isCommand room (← args.addOption spec value) rest
        | .value _, none, [] => .error .usage
        | _, some _, _ => .error .usage
        | _, none, rest => do scan specs isCommand room (← args.addOption spec "") rest

end RunLog.Cli
