import RunLog.Pattern.Parser
import RunLog.Pattern.Regex

/-!
The meaning of a pattern: `Pattern.compile` gives the regular expression that a text describes.
Flags hold from where they are set to the end of the innermost group, through all branches that
follow. Where the flag for Unicode is taken back, a pattern speaks of bytes; since texts are made of
characters, a pattern that could match some of the bytes of a character is refused.
-/

namespace RunLog.Pattern

/-- The flags that hold at a place in a pattern. -/
structure Flags where
  ignoreCase : Bool := false
  multiLine : Bool := false
  dotAll : Bool := false
  unicode : Bool := true
  carriageReturn : Bool := false

namespace Flags

/-- Sets a flag or takes it back. Which of several matches is preferred, and blanks in the pattern,
make no difference here. -/
def change (flags : Flags) : Flag × Bool → Flags
  | (.ignoreCase, on) => { flags with ignoreCase := on }
  | (.multiLine, on) => { flags with multiLine := on }
  | (.dotAll, on) => { flags with dotAll := on }
  | (.unicode, on) => { flags with unicode := on }
  | (.carriageReturn, on) => { flags with carriageReturn := on }
  | (.swapGreed, _) | (.verbose, _) => flags

def changeAll (flags : Flags) (changes : FlagChanges) : Flags := changes.foldl change flags

end Flags

/-- A name as names of properties are compared: small letters of ASCII without blanks, hyphens and
underscores, and without the word `is` in front. Only `isc` keeps it, which would be the name of
another property without it. -/
def looseName (name : String) : String :=
  let cs := name.toList
  let isPrefixed := ((cs.take 2).map Char.toLower) = ['i', 's']
  let kept := (if isPrefixed then cs.drop 2 else cs).filter fun c =>
    c.toNat < 128 && c ≠ ' ' && c ≠ '_' && c ≠ '-'
  let loose := String.ofList (kept.map Char.toLower)
  if isPrefixed && loose = "c" then "isc" else loose

namespace CharSet

/-- The characters of a general category, or of one of the sets that are asked for like one. -/
def ofCategory? : String → Option CharSet
  | "any" => some everything
  | "assigned" => some (butNot everything (categories ["Cn"]))
  | "ascii" => some ascii
  | name => (Unicode.Category.named? name).map categories

/-- The characters for which a query asks. A bare name is that of a property, a general category or
a script; `cf`, `sc` and `lc` are categories alone. -/
def ofQuery? : PropertyQuery → Option CharSet
  | .named name =>
    let name := looseName name
    let ofProperty := if ["cf", "sc", "lc"].contains name then Option.none
      else (Unicode.Property.named? name).map property
    (ofProperty.or (ofCategory? name)).or ((Unicode.Script.named? name).map script)
  | .valued name value =>
    let value := looseName value
    match looseName name with
    | "gc" | "generalcategory" => ofCategory? value
    | "sc" | "script" => (Unicode.Script.named? value).map script
    | "scx" | "scriptextensions" => (Unicode.Script.named? value).map scriptUse
    | _ => Option.none

def foldCase (flags : Flags) (set : CharSet) : CharSet :=
  if !flags.ignoreCase then set else if flags.unicode then anyCase set else anyAsciiCase set

/-- What a set leaves over. Without Unicode sets hold bytes. -/
def complement (flags : Flags) (set : CharSet) : CharSet :=
  if flags.unicode then outside set else butNot (range 0 255) set

/-- A set or what it leaves over; a set of bytes must not hold parts of characters. -/
def negate (flags : Flags) (negated : Bool) (set : CharSet) : Except PatternError CharSet :=
  let answer := if negated then complement flags set else set
  if flags.unicode || answer.isAsciiByte then .ok answer else .error .splitsCharacters

end CharSet

namespace Literal

/-- The character that a literal stands for, which without Unicode is no part of another one. -/
def character (literal : Literal) (flags : Flags) : Except PatternError Char :=
  if !flags.unicode && literal.asByte && 127 < literal.char.toNat then .error .splitsCharacters
  else .ok literal.char

def classCharacter (literal : Literal) (flags : Flags) : Except PatternError Char :=
  if !flags.unicode && 127 < literal.char.toNat then .error .needsUnicode else .ok literal.char

end Literal

namespace LetterClass

def toCharSet (kind : LetterClass) (flags : Flags) : CharSet :=
  match kind, flags.unicode with
  | digit, true => .digit
  | digit, false => .asciiDigit
  | space, true => .space
  | space, false => .asciiSpace
  | word, true => .word
  | word, false => .asciiWord

end LetterClass

namespace ClassExpr

mutual

def toCharSet (flags : Flags) : ClassExpr → Except PatternError CharSet
  | literal c => return .single (← c.classCharacter flags)
  | range first last => do
    let first ← first.classCharacter flags
    let last ← last.classCharacter flags
    return .range first.toNat last.toNat
  | posix negated name =>
    (((CharSet.asciiClass? name).getD .none).foldCase flags).negate flags negated
  | letter negated kind => (kind.toCharSet flags).negate flags negated
  | property negated query =>
    if !flags.unicode then .error .needsUnicode
    else match CharSet.ofQuery? query with
      | some set => (set.foldCase flags).negate flags negated
      | none => .error .unknownProperty
  | bracketed negated content => do
    ((← content.toCharSet flags).foldCase flags).negate flags negated
  | union items => return .union (← toCharSets flags items)
  | operation kind a b => do
    let a := (← a.toCharSet flags).foldCase flags
    let b := (← b.toCharSet flags).foldCase flags
    return match kind with
      | .intersection => .both a b
      | .difference => .butNot a b
      | .symmetricDifference => .exactlyOne a b

def toCharSets (flags : Flags) : List ClassExpr → Except PatternError (List CharSet)
  | [] => .ok []
  | item :: rest => do
    let set ← item.toCharSet flags
    return set :: (← toCharSets flags rest)

end

end ClassExpr

namespace Assertion

def toLook (assertion : Assertion) (flags : Flags) : Look :=
  match assertion with
  | caret =>
    if !flags.multiLine then .textStart
    else if flags.carriageReturn then .lineStartCr else .lineStart
  | dollar =>
    if !flags.multiLine then .textEnd
    else if flags.carriageReturn then .lineEndCr else .lineEnd
  | textStart => .textStart
  | textEnd => .textEnd
  | boundary => .boundary !flags.unicode
  | noBoundary => .noBoundary !flags.unicode
  | wordStart => .wordStart !flags.unicode
  | wordEnd => .wordEnd !flags.unicode
  | wordStartHalf => .wordStartHalf !flags.unicode
  | wordEndHalf => .wordEndHalf !flags.unicode

end Assertion

def dotSet (flags : Flags) : CharSet :=
  if flags.dotAll then .everything
  else if flags.carriageReturn then .butNot .everything (.ofList ['\r', '\n'])
  else .butNot .everything (.single '\n')

namespace Expr

mutual

/-- The regular expression of a pattern, and the flags that hold behind it. -/
def toRegex (flags : Flags) : Expr → Except PatternError (Regex × Flags)
  | empty => .ok (.empty, flags)
  | Expr.flags changes => .ok (.empty, flags.changeAll changes)
  | literal c => do
    let c ← c.character flags
    return (.set ((CharSet.single c).foldCase flags), flags)
  | dot => if flags.unicode then .ok (.set (dotSet flags), flags) else .error .splitsCharacters
  | assertion condition => .ok (.look (condition.toLook flags), flags)
  | charClass set => return (.set (← set.toCharSet flags), flags)
  | repetition inner least greatest => do
    let (inner, flags) ← inner.toRegex flags
    -- A flag set in what is repeated holds on behind it.
    return (.repetition inner least greatest, flags)
  | group changes inner => return ((← inner.toRegex (flags.changeAll changes)).1, flags)
  | alternation branches => branchesRegex flags branches
  | concat items => itemsRegex flags items

def branchesRegex (flags : Flags) : List Expr → Except PatternError (Regex × Flags)
  | [] => .ok (.set .none, flags)
  | branch :: rest => do
    let (first, flags) ← branch.toRegex flags
    let (others, flags) ← branchesRegex flags rest
    return (.either first others, flags)

def itemsRegex (flags : Flags) : List Expr → Except PatternError (Regex × Flags)
  | [] => .ok (.empty, flags)
  | item :: rest => do
    let (first, flags) ← item.toRegex flags
    let (others, flags) ← itemsRegex flags rest
    return (.concat first others, flags)

end

end Expr

def maximalCost : Nat := 10 * 1024 * 1024

def compile (text : String) : Except PatternError Regex := do
  let (regex, _) ← (← Expr.parse text.toList).toRegex {}
  if maximalCost < regex.cost then throw .tooLarge
  return regex

end RunLog.Pattern
