namespace RunLog.Pattern

/-- Why a text is no pattern. -/
inductive PatternError where
  | badEscape
  | badClass
  | badRange
  | badCount
  | badFlags
  | badGroupName
  | lookAround
  | nothingToRepeat
  | unclosedClass
  | unclosedGroup
  | unopenedGroup
  | unknownProperty
  | tooDeep
  | tooLarge
  | splitsCharacters
  /-- It asks for what only Unicode knows where Unicode is switched off. -/
  | needsUnicode
deriving DecidableEq

namespace PatternError

def message : PatternError → String
  | badEscape => "a backslash stands before a character that has no meaning there"
  | badClass => "a class holds what is no character"
  | badRange => "a range of characters ends before it begins"
  | badCount => "a count of repetitions is no count"
  | badFlags => "a group begins with flags that do not exist or contradict each other"
  | badGroupName => "the name of a group is no name"
  | lookAround => "groups cannot look ahead or behind"
  | nothingToRepeat => "there is nothing to repeat"
  | unclosedClass => "a class has no end"
  | unclosedGroup => "a group has no end"
  | unopenedGroup => "a group has no beginning"
  | unknownProperty => "there is no such property of characters"
  | tooDeep => "groups or classes are nested too deeply"
  | tooLarge => "the pattern is too large"
  | splitsCharacters => "the pattern could match a part of a character"
  | needsUnicode => "properties and characters outside of ASCII need the flag for Unicode"

end PatternError

/-- A character as it is written. -/
structure Literal where
  char : Char
  /-- Written as a byte: two hexadecimal digits behind the letter x. -/
  asByte : Bool := false

/-- The classes with a letter behind a backslash. -/
inductive LetterClass where
  | digit
  | space
  | word

/-- How a property of characters is asked for. -/
inductive PropertyQuery where
  | named (name : String)
  | valued (name value : String)

/-- How two classes are combined. -/
inductive ClassOperation where
  | intersection
  | difference
  | symmetricDifference

/-- A class of characters. -/
inductive ClassExpr where
  | literal (char : Literal)
  | range (first last : Literal)
  | posix (negated : Bool) (name : String)
  | letter (negated : Bool) (kind : LetterClass)
  | property (negated : Bool) (query : PropertyQuery)
  | bracketed (negated : Bool) (content : ClassExpr)
  | union (items : List ClassExpr)
  | operation (kind : ClassOperation) (a b : ClassExpr)

/-- A condition on a place between two characters. -/
inductive Assertion where
  | caret
  | dollar
  | textStart
  | textEnd
  | boundary
  | noBoundary
  | wordStart
  | wordEnd
  | wordStartHalf
  | wordEndHalf

/-- What flags change. -/
inductive Flag where
  | ignoreCase
  | multiLine
  | dotAll
  | swapGreed
  | unicode
  | carriageReturn
  | verbose
deriving DecidableEq

abbrev FlagChanges := List (Flag × Bool)

/-- A pattern. -/
inductive Expr where
  | empty
  | flags (changes : FlagChanges)
  | literal (char : Literal)
  | dot
  | assertion (condition : Assertion)
  | charClass (set : ClassExpr)
  | repetition (inner : Expr) (least : Nat) (greatest : Option Nat)
  | group (changes : FlagChanges) (inner : Expr)
  | alternation (branches : List Expr)
  | concat (items : List Expr)

namespace ClassExpr

/-- The class of some items, of which one alone stands for itself. -/
def ofItems : List ClassExpr → ClassExpr
  | [item] => item
  | items => union items

mutual

/-- How deeply brackets, unions and operations are nested. -/
def depth : ClassExpr → Nat
  | bracketed _ content => content.depth + 1
  | union [] => 0
  | union items => depths items + 1
  | operation _ a b => max a.depth b.depth + 1
  | _ => 0

def depths : List ClassExpr → Nat
  | [] => 0
  | item :: rest => max item.depth (depths rest)

end

end ClassExpr

namespace Expr

/-- The pattern of some items in a row, of which one alone stands for itself. -/
def ofItems : List Expr → Expr
  | [] => empty
  | [item] => item
  | items => concat items

mutual

def depth : Expr → Nat
  | charClass set => set.depth
  | repetition inner _ _ => inner.depth + 1
  | group _ inner => inner.depth + 1
  | alternation branches => depths branches + 1
  | concat items => depths items + 1
  | _ => 0

def depths : List Expr → Nat
  | [] => 0
  | item :: rest => max item.depth (depths rest)

end

end Expr

end RunLog.Pattern
