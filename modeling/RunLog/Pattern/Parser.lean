import RunLog.Pattern.Class
import RunLog.Unicode.Category
import RunLog.Unicode.Property

namespace RunLog.Pattern

/-- A group that is still open, or the whole pattern. -/
structure OpenGroup where
  /-- The items of the current branch, the latest first. -/
  items : List Expr := []
  /-- The branches before it, the latest first. -/
  branches : List Expr := []

namespace OpenGroup

def push (group : OpenGroup) (item : Expr) : OpenGroup :=
  { group with items := item :: group.items }

def endBranch (group : OpenGroup) : OpenGroup :=
  ⟨[], Expr.ofItems group.items.reverse :: group.branches⟩

def content (group : OpenGroup) : Expr :=
  let last := Expr.ofItems group.items.reverse
  match group.branches with
  | [] => last
  | branches => .alternation (branches.reverse ++ [last])

end OpenGroup

/-- A group around the one that is read: what it holds so far, what the inner group changes, and
whether blanks are passed over outside. -/
structure Surrounding where
  group : OpenGroup
  changes : FlagChanges
  verbose : Bool

/-- How far a pattern has been read. -/
structure Progress where
  outer : List Surrounding := []
  inner : OpenGroup := {}
  verbose : Bool := false
  /-- The names of groups so far. -/
  names : List (List Char) := []

/-- The last change of a flag, if there is one. -/
def changeOf? (flag : Flag) (changes : FlagChanges) : Option Bool := changes.lookup flag

def flag? : Char → Option Flag
  | 'i' => some .ignoreCase
  | 'm' => some .multiLine
  | 's' => some .dotAll
  | 'U' => some .swapGreed
  | 'u' => some .unicode
  | 'R' => some .carriageReturn
  | 'x' => some .verbose
  | _ => none

/-- Reads flags up to a colon or a closing parenthesis, which is part of the answer. Behind a hyphen
flags are taken back; a hyphen stands only once and not at the end, and no flag is named twice. -/
def flags (negated dangling : Bool) (changes : FlagChanges) :
    List Char → Except PatternError (Parsed (FlagChanges × Char))
  | [] => .error .badFlags
  | c :: rest =>
    if c = ':' || c = ')' then
      if dangling then .error .badFlags else .ok ((changes.reverse, c), rest)
    else if c = '-' then
      if negated then .error .badFlags else flags true true changes rest
    else match flag? c with
      | some flag =>
        if (changeOf? flag changes).isSome then .error .badFlags
        else flags negated false ((flag, !negated) :: changes) rest
      | none => .error .badFlags

def isAlphabetic (c : Char) : Bool := Unicode.Property.hasNamed "alphabetic" c.toNat

def isNumeric (c : Char) : Bool := Unicode.Category.isIn ["Nd", "Nl", "No"] c.toNat

def isGroupName : List Char → Bool
  | [] => false
  | c :: rest =>
    (c = '_' || isAlphabetic c) && rest.all fun c =>
      c = '_' || c = '.' || c = '[' || c = ']' || isAlphabetic c || isNumeric c

namespace Progress

def push (progress : Progress) (item : Expr) : Progress :=
  { progress with inner := progress.inner.push item }

def openGroup (progress : Progress) (changes : FlagChanges) : Progress :=
  { progress with
    outer := ⟨progress.inner, changes, progress.verbose⟩ :: progress.outer
    inner := {}
    verbose := (changeOf? .verbose changes).getD progress.verbose }

/-- Reads what stands behind an opening parenthesis before the content of the group: a name, or
flags, which may be all that the parentheses hold. -/
def groupStart (progress : Progress) (text : List Char) :
    Except PatternError (Parsed Progress) := do
  let named (rest : List Char) : Except PatternError (Parsed Progress) :=
    let name := rest.takeWhile (· ≠ '>')
    match rest.dropWhile (· ≠ '>') with
    | [] => .error .badGroupName
    | _ :: rest =>
      if isGroupName name && !progress.names.contains name then
        .ok ({ progress with names := name :: progress.names }.openGroup [], rest)
      else .error .badGroupName
  match skip progress.verbose text with
  | '?' :: '=' :: _ | '?' :: '!' :: _ | '?' :: '<' :: '=' :: _ | '?' :: '<' :: '!' :: _ =>
    throw .lookAround
  | '?' :: 'P' :: '<' :: rest => named rest
  | '?' :: '<' :: rest => named rest
  | '?' :: rest =>
    let ((changes, last), rest) ← flags false false [] rest
    if last = ':' then return (progress.openGroup changes, rest)
    if changes.isEmpty then throw .nothingToRepeat
    return ({ progress with verbose := (changeOf? .verbose changes).getD progress.verbose }.push
      (.flags changes), rest)
  | text => return (progress.openGroup [], text)

def closeGroup (progress : Progress) : Except PatternError Progress :=
  match progress.outer with
  | [] => .error .unopenedGroup
  | s :: outer =>
    .ok { progress with
      outer, verbose := s.verbose, inner := s.group.push (.group s.changes progress.inner.content) }

/-- Repeats the last item; flags and nothing cannot be repeated. -/
def repeatLast (progress : Progress) (least : Nat) (greatest : Option Nat) :
    Except PatternError Progress :=
  match progress.inner.items with
  | [] | .empty :: _ | .flags _ :: _ => .error .nothingToRepeat
  | item :: items =>
    .ok { progress with
      inner := { progress.inner with items := .repetition item least greatest :: items } }

/-- Takes the next part of a pattern, which begins with the given character. -/
def step (progress : Progress) (c : Char) (rest : List Char) :
    Except PatternError (Parsed Progress) := do
  match c with
  | '(' => progress.groupStart rest
  | ')' => return (← progress.closeGroup, rest)
  | '|' => return ({ progress with inner := progress.inner.endBranch }, rest)
  | '[' =>
    let (set, rest) ← bracketClass progress.verbose rest
    return (progress.push (.charClass set), rest)
  | '?' => return (← progress.repeatLast 0 (some 1), dropQuestion rest)
  | '*' => return (← progress.repeatLast 0 none, dropQuestion rest)
  | '+' => return (← progress.repeatLast 1 none, dropQuestion rest)
  | '\x7b' =>
    let ((least, greatest), rest) ← counts progress.verbose rest
    return (← progress.repeatLast least greatest, rest)
  | '\\' =>
    let (part, rest) ← escape progress.verbose rest
    let item : Expr := match part with
      | .literal c => .literal c
      | .assertion condition => .assertion condition
      | .charClass set => .charClass set
    return (progress.push item, rest)
  | '.' => return (progress.push .dot, rest)
  | '^' => return (progress.push (.assertion .caret), rest)
  | '$' => return (progress.push (.assertion .dollar), rest)
  | c => return (progress.push (.literal ⟨c, false⟩), rest)

/-- Reads the rest of a pattern. A part takes at least one character, as the test for shorter rests
makes plain. -/
def finish (progress : Progress) (text : List Char) : Except PatternError Expr :=
  match skip progress.verbose text with
  | [] => if progress.outer.isEmpty then .ok progress.inner.content else .error .unclosedGroup
  | c :: rest => match progress.step c rest with
    | .error e => .error e
    | .ok (progress, rest) =>
      if rest.length < text.length then finish progress rest else .error .unclosedGroup
termination_by text.length

end Progress

def maximalNesting : Nat := 250

def Expr.parse (text : List Char) : Except PatternError Expr := do
  let expr ← Progress.finish {} text
  if maximalNesting < expr.depth then throw .tooDeep
  return expr

end RunLog.Pattern
