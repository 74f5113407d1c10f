import RunLog.Unicode.Category
import RunLog.Unicode.Folding
import RunLog.Unicode.Property
import RunLog.Unicode.Script

/-!
Sets of characters as patterns describe them. A set is kept as the expression that describes it, and
`CharSet.contains` is its meaning; so sets stay small whatever they hold.
-/

namespace RunLog.Pattern

/-- A set of code points. -/
inductive CharSet where
  | none
  | range (first last : Nat)
  /-- The code points with the Unicode property of the given number. -/
  | property (number : Nat)
  | categories (names : List String)
  | script (number : Nat)
  /-- The code points that the script with the given number uses. -/
  | scriptUse (number : Nat)
  | either (a b : CharSet)
  | both (a b : CharSet)
  | butNot (a b : CharSet)
  | exactlyOne (a b : CharSet)
  | outside (a : CharSet)
  /-- The set with all letters that differ from one of its letters in case alone. -/
  | anyCase (a : CharSet)
  | anyAsciiCase (a : CharSet)
deriving DecidableEq, Inhabited

namespace CharSet

/-- An ASCII letter in the other case; other code points stay. -/
def swapCase (n : Nat) : Nat :=
  if 65 ≤ n && n ≤ 90 then n + 32 else if 97 ≤ n && n ≤ 122 then n - 32 else n

def contains : CharSet → Nat → Bool
  | none, _ => false
  | range first last, n => first ≤ n && n ≤ last
  | property number, n => Unicode.Property.has number n
  | categories names, n => Unicode.Category.isIn names n
  | script number, n => Unicode.Script.isIn number n
  | scriptUse number, n => Unicode.Script.isUsedIn number n
  | either a b, n => a.contains n || b.contains n
  | both a b, n => a.contains n && b.contains n
  | butNot a b, n => a.contains n && !b.contains n
  | exactlyOne a b, n => a.contains n != b.contains n
  | outside a, n => !a.contains n
  | anyCase a, n => (Unicode.Folding.variants n).any a.contains
  | anyAsciiCase a, n => a.contains n || a.contains (swapCase n)

def single (c : Char) : CharSet := range c.toNat c.toNat

def ofList (cs : List Char) : CharSet := cs.foldr (fun c set => either (single c) set) none

def union (sets : List CharSet) : CharSet := sets.foldr either none

def everything : CharSet := range 0 0x10FFFF

def ascii : CharSet := range 0 0x7F

def asciiDigit : CharSet := range 48 57

def asciiUpper : CharSet := range 65 90

def asciiLower : CharSet := range 97 122

def asciiAlpha : CharSet := either asciiUpper asciiLower

def asciiAlnum : CharSet := either asciiAlpha asciiDigit

def asciiWord : CharSet := either asciiAlnum (single '_')

def asciiSpace : CharSet := either (range 9 13) (single ' ')

def named (name : String) : CharSet :=
  match Unicode.Property.named? name with
  | some number => property number
  | Option.none => none

def digit : CharSet := categories ["Nd"]

def space : CharSet := named "whitespace"

/-- What words are made of in all scripts: letters, marks, digits, what connects them and what joins
them. -/
def word : CharSet :=
  union [named "alphabetic", categories ["Mc", "Me", "Mn", "Nd", "Pc"], named "joincontrol"]

def isWordChar (c : Char) : Bool := word.contains c.toNat

/-- Does a set hold nothing outside ASCII, of what a byte can be? -/
def isAsciiByte (set : CharSet) : Bool := (List.range 128).all fun i => !set.contains (128 + i)

/-- The set of the class in double brackets with the given name. -/
def asciiClass? : String → Option CharSet
  | "alnum" => some asciiAlnum
  | "alpha" => some asciiAlpha
  | "ascii" => some ascii
  | "blank" => some (ofList ['\t', ' '])
  | "cntrl" => some (either (range 0 31) (range 127 127))
  | "digit" => some asciiDigit
  | "graph" => some (range 33 126)
  | "lower" => some asciiLower
  | "print" => some (range 32 126)
  | "punct" => some (union [range 33 47, range 58 64, range 91 96, range 123 126])
  | "space" => some asciiSpace
  | "upper" => some asciiUpper
  | "word" => some asciiWord
  | "xdigit" => some (union [asciiDigit, range 65 70, range 97 102])
  | _ => Option.none

/-- The number of runs of code points that a set is made of, at most. -/
def runCount : CharSet → Nat
  | none => 0
  | range _ _ => 1
  | property number => ((Unicode.Property.tables[number]?.map fun e => e.2.steps.size).getD 0) / 2
  | categories names => 24 * names.length
  | script _ => 4
  | scriptUse _ => 4
  | either a b => a.runCount + b.runCount
  | both a b => max a.runCount b.runCount
  | butNot a b => a.runCount + b.runCount
  | exactlyOne a b => a.runCount + b.runCount
  | outside a => a.runCount + 1
  | anyCase a => 2 * a.runCount
  | anyAsciiCase a => 2 * a.runCount

end CharSet

end RunLog.Pattern
