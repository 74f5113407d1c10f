import RunLog.Pattern.Expr
import RunLog.Text.Blank
import RunLog.Text.Decimal
import RunLog.Text.Hex

namespace RunLog.Pattern

/-- A part of a pattern, with what follows it. -/
abbrev Parsed (α : Type) := α × List Char

def skipSpace (inComment : Bool) : List Char → List Char
  | [] => []
  | c :: rest =>
    if inComment then skipSpace (c ≠ '\n') rest
    else if Text.isBlank c then skipSpace false rest
    else if c = '#' then skipSpace true rest
    else c :: rest

theorem length_skipSpace_le (inComment : Bool) (text : List Char) :
    (skipSpace inComment text).length ≤ text.length := by
  fun_induction skipSpace inComment text <;> simp_all <;> omega

/-- What comes next in a pattern: in a verbose one the blanks and comments are passed over. -/
def skip (verbose : Bool) (text : List Char) : List Char :=
  if verbose then skipSpace false text else text

theorem length_skip_le (verbose : Bool) (text : List Char) :
    (skip verbose text).length ≤ text.length := by
  unfold skip
  split
  · exact length_skipSpace_le false text
  · exact Nat.le_refl _

/-- The characters at the front that pass the test, and what follows them. -/
def run (verbose : Bool) (test : Char → Bool) (text : List Char) : List Char × List Char :=
  match text with
  | [] => ([], [])
  | c :: rest =>
    if test c then
      let (more, behind) := run verbose test (skip verbose rest)
      (c :: more, behind)
    else ([], c :: rest)
termination_by text.length
decreasing_by
  have := length_skip_le verbose rest
  simp only [List.length_cons]
  omega

/-- What a part of a pattern stands for that may also stand in a class, if it is no assertion. -/
inductive Primitive where
  | literal (char : Literal)
  | assertion (condition : Assertion)
  | charClass (set : ClassExpr)

def hexChar? (digits : List Char) : Option Char := do
  if digits.isEmpty then none
  let n ← Text.hexFrom? 0 digits
  if n.isValidChar then some (Char.ofNat n) else none

def hexDigits (verbose : Bool) : Nat → List Char → Except PatternError (Parsed (List Char))
  | 0, text => .ok ([], text)
  | n + 1, c :: rest =>
    if (Text.hexDigit? c).isSome then do
      let (more, behind) ← hexDigits verbose n (skip verbose rest)
      return (c :: more, behind)
    else .error .badEscape
  | _ + 1, [] => .error .badEscape

/-- Reads the number of a character: so many digits, or any number of them in braces. -/
def hexEscape (verbose : Bool) (count : Nat) (text : List Char) :
    Except PatternError (Parsed Primitive) := do
  let (digits, rest, braced) ← match skip verbose text with
    | '\x7b' :: inner =>
      match run verbose (fun c => (Text.hexDigit? c).isSome) (skip verbose inner) with
      | (digits, '\x7d' :: rest) => pure (digits, skip verbose rest, true)
      | _ => throw .badEscape
    | text => do
      let (digits, rest) ← hexDigits verbose count text
      pure (digits, rest, false)
  match hexChar? digits with
  | some c => return (.literal ⟨c, count = 2 && !braced⟩, rest)
  | none => throw .badEscape

/-- What stands before and behind the first place where a text holds another one. -/
def splitAt? (mark : List Char) : List Char → Option (List Char × List Char)
  | [] => none
  | c :: rest =>
    if mark.isPrefixOf (c :: rest) then some ([], (c :: rest).drop mark.length)
    else (splitAt? mark rest).map fun (before, behind) => (c :: before, behind)

/-- The query that a name in braces makes, and whether it is negated: a value may stand behind a
colon, an equals sign, or the mark of being unequal. -/
def propertyQuery (content : List Char) : Bool × PropertyQuery :=
  let valued (parts : List Char × List Char) : PropertyQuery :=
    .valued (String.ofList parts.1) (String.ofList parts.2)
  match splitAt? ['!', '='] content with
  | some parts => (true, valued parts)
  | none => match (splitAt? [':'] content).or (splitAt? ['='] content) with
    | some parts => (false, valued parts)
    | none => (false, .named (String.ofList content))

/-- Reads the name of a property: one letter, or a name in braces. -/
def propertyEscape (verbose negated : Bool) (text : List Char) :
    Except PatternError (Parsed Primitive) :=
  match skip verbose text with
  | [] => .error .badEscape
  | '\x7b' :: inner => match run verbose (· ≠ '\x7d') (skip verbose inner) with
    | (content, '\x7d' :: rest) =>
      let (unequal, query) := propertyQuery content
      .ok (.charClass (.property (negated != unequal) query), rest)
    | _ => .error .badEscape
  | c :: rest =>
    if c = '\\' then .error .badEscape
    else .ok (.charClass (.property negated (.named (String.singleton c))), skip verbose rest)

/-- Reads what may stand behind the letter for a boundary of words: one of its halves in braces. -/
def boundaryEscape (verbose : Bool) (text : List Char) : Except PatternError (Parsed Primitive) :=
  let isNameChar (c : Char) : Bool := c.isAlpha || c = '-'
  match text with
  | '\x7b' :: inner => match skip verbose inner with
    | [] => .error .badEscape
    | c :: rest =>
      if isNameChar c then
        match run verbose isNameChar (c :: rest) with
        | (name, '\x7d' :: rest) => match String.ofList name with
          | "start" => .ok (.assertion .wordStart, rest)
          | "end" => .ok (.assertion .wordEnd, rest)
          | "start-half" => .ok (.assertion .wordStartHalf, rest)
          | "end-half" => .ok (.assertion .wordEndHalf, rest)
          | _ => .error .badEscape
        | _ => .error .badEscape
      else .ok (.assertion .boundary, text)
  | text => .ok (.assertion .boundary, text)

def escape (verbose : Bool) : List Char → Except PatternError (Parsed Primitive)
  | [] => .error .badEscape
  | c :: rest =>
    let letter (negated : Bool) (kind : LetterClass) : Except PatternError (Parsed Primitive) :=
      .ok (.charClass (.letter negated kind), rest)
    let plain (c : Char) : Except PatternError (Parsed Primitive) := .ok (.literal ⟨c, false⟩, rest)
    match c with
    | 'x' => hexEscape verbose 2 rest
    | 'u' => hexEscape verbose 4 rest
    | 'U' => hexEscape verbose 8 rest
    | 'p' => propertyEscape verbose false rest
    | 'P' => propertyEscape verbose true rest
    | 'd' => letter false .digit
    | 'D' => letter true .digit
    | 's' => letter false .space
    | 'S' => letter true .space
    | 'w' => letter false .word
    | 'W' => letter true .word
    | 'a' => plain '\x07'
    | 'f' => plain '\x0c'
    | 't' => plain '\t'
    | 'n' => plain '\n'
    | 'r' => plain '\r'
    | 'v' => plain '\x0b'
    | 'A' => .ok (.assertion .textStart, rest)
    | 'z' => .ok (.assertion .textEnd, rest)
    | 'b' => boundaryEscape verbose rest
    | 'B' => .ok (.assertion .noBoundary, rest)
    | '<' => .ok (.assertion .wordStart, rest)
    | '>' => .ok (.assertion .wordEnd, rest)
    | c => if c.toNat < 128 && !c.isAlphanum then plain c else .error .badEscape

def maximalCount : Nat := 4294967295

def count (verbose : Bool) (text : List Char) : Except PatternError (Parsed Nat) :=
  let (digits, rest) := run verbose Char.isDigit (text.dropWhile Text.isBlank)
  match Text.digits? digits with
  | some n =>
    if n ≤ maximalCount then .ok (n, skip verbose (rest.dropWhile Text.isBlank))
    else .error .badCount
  | none => .error .badCount

/-- What follows the question mark at the front, if there is one. -/
def dropQuestion : List Char → List Char
  | '?' :: rest => rest
  | rest => rest

/-- Reads how often something is repeated, behind the opening brace: the least count, and the
greatest one if there is a bound. -/
def counts (verbose : Bool) (text : List Char) :
    Except PatternError (Parsed (Nat × Option Nat)) := do
  let (least, rest) ← count verbose (skip verbose text)
  let (greatest, rest) ← match rest with
    | ',' :: rest => match skip verbose rest with
      | '\x7d' :: rest => pure (none, '\x7d' :: rest)
      | rest => do
        let (n, rest) ← count verbose rest
        pure (some n, rest)
    | rest => pure (some least, rest)
  match rest with
  | '\x7d' :: rest =>
    if greatest.any (· < least) then throw .badCount
    return ((least, greatest), dropQuestion (skip verbose rest))
  | _ => throw .badCount

end RunLog.Pattern
