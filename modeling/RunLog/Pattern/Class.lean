import RunLog.Pattern.Escape

namespace RunLog.Pattern

/-- A class that is still open. -/
structure OpenClass where
  negated : Bool
  /-- The operation that waits for its second side, with its first one. -/
  pending : Option (ClassOperation × ClassExpr) := none
  /-- What was read behind that, the latest first. -/
  items : List ClassExpr := []

namespace OpenClass

def content (opened : OpenClass) : ClassExpr :=
  let items := ClassExpr.ofItems opened.items.reverse
  match opened.pending with
  | some (kind, first) => .operation kind first items
  | none => items

def push (opened : OpenClass) (item : ClassExpr) : OpenClass :=
  { opened with items := item :: opened.items }

/-- Makes what the class holds so far the first side of an operation. -/
def operate (opened : OpenClass) (kind : ClassOperation) : OpenClass :=
  { opened with pending := some (kind, opened.content), items := [] }

end OpenClass

/-- The hyphens at the front, which stand for themselves there, and what follows them. -/
def leadingHyphens (verbose : Bool) (text : List Char) : List Char × List Char :=
  run verbose (· = '-') text

/-- Reads the beginning of a class behind its bracket: a caret negates it, hyphens stand for
themselves, and so does a closing bracket where nothing stands before it. -/
def openClass (verbose : Bool) (text : List Char) : Except PatternError (Parsed OpenClass) := do
  let (negated, text) := match skip verbose text with
    | '^' :: rest => (true, skip verbose rest)
    | text => (false, text)
  let (hyphens, text) := leadingHyphens verbose text
  let items := hyphens.map fun c => ClassExpr.literal ⟨c, false⟩
  match hyphens, text with
  | _, [] => throw .unclosedClass
  | [], ']' :: rest =>
    let rest := skip verbose rest
    if rest.isEmpty then throw .unclosedClass
    return (⟨negated, none, [.literal ⟨']', false⟩]⟩, rest)
  | _, text => return (⟨negated, none, items⟩, text)

def posixNames : List String :=
  ["alnum", "alpha", "ascii", "blank", "cntrl", "digit", "graph", "lower", "print", "punct",
    "space", "upper", "word", "xdigit"]

/-- Reads a name in double brackets, behind the first one and up to the last one. -/
def posixClass? : List Char → Option (ClassExpr × List Char)
  | ':' :: rest =>
    let (negated, rest) := match rest with
      | '^' :: rest => (true, rest)
      | rest => (false, rest)
    let name := String.ofList (rest.takeWhile (· ≠ ':'))
    match rest.dropWhile (· ≠ ':') with
    | ':' :: ']' :: rest =>
      if posixNames.contains name then some (.posix negated name, rest) else none
    | _ => none
  | _ => none

def classItem (verbose : Bool) : List Char → Except PatternError (Parsed Primitive)
  | [] => .error .unclosedClass
  | '\\' :: rest => escape verbose rest
  | c :: rest => .ok (.literal ⟨c, false⟩, rest)

def Primitive.toClass : Primitive → Except PatternError ClassExpr
  | .literal c => .ok (.literal c)
  | .charClass set => .ok set
  | .assertion _ => .error .badClass

/-- Reads an item of a class, or a range if a hyphen follows that does not stand for itself. -/
def classRange (verbose : Bool) (text : List Char) : Except PatternError (Parsed ClassExpr) := do
  let (first, rest) ← classItem verbose text
  let rest := skip verbose rest
  let alone : Except PatternError (Parsed ClassExpr) := do return (← first.toClass, rest)
  match rest with
  | [] => throw .unclosedClass
  | '-' :: behind =>
    let next := (skip verbose behind).head?
    if next = some ']' || next = some '-' then alone
    else
      let (last, rest) ← classItem verbose (skip verbose behind)
      match first, last with
      | .literal a, .literal b =>
        if b.char < a.char then throw .badRange
        return (.range a b, rest)
      | _, _ => throw .badRange
  | _ => alone

/-- Takes the next part of a class: the classes around it, the class and what follows the part; or
the whole class with what follows it. -/
def classStep (verbose : Bool) (outer : List OpenClass) (inner : OpenClass) (text : List Char) :
    Except PatternError ((List OpenClass × OpenClass) × List Char ⊕ ClassExpr × List Char) := do
  match text with
  | [] => throw .unclosedClass
  | '[' :: rest =>
    match posixClass? rest with
    | some (set, rest) => return .inl ((outer, inner.push set), rest)
    | none =>
      let (opened, rest) ← openClass verbose rest
      return .inl ((inner :: outer, opened), rest)
  | ']' :: rest =>
    let set := ClassExpr.bracketed inner.negated inner.content
    match outer with
    | [] => return .inr (set, rest)
    | parent :: outer => return .inl ((outer, parent.push set), rest)
  | '&' :: '&' :: rest => return .inl ((outer, inner.operate .intersection), rest)
  | '-' :: '-' :: rest => return .inl ((outer, inner.operate .difference), rest)
  | '~' :: '~' :: rest => return .inl ((outer, inner.operate .symmetricDifference), rest)
  | text =>
    let (item, rest) ← classRange verbose text
    return .inl ((outer, inner.push item), rest)

/-- Reads the rest of a class that is open inside others. A part takes at least one character, as
the test for shorter rests makes plain. -/
def classParts (verbose : Bool) (outer : List OpenClass) (inner : OpenClass) (text : List Char) :
    Except PatternError (Parsed ClassExpr) :=
  match classStep verbose outer inner (skip verbose text) with
  | .error e => .error e
  | .ok (.inr result) => .ok result
  | .ok (.inl ((outer, inner), rest)) =>
    if rest.length < text.length then classParts verbose outer inner rest
    else .error .unclosedClass
termination_by text.length

def bracketClass (verbose : Bool) (text : List Char) : Except PatternError (Parsed ClassExpr) := do
  let (opened, rest) ← openClass verbose text
  classParts verbose [] opened rest

end RunLog.Pattern
