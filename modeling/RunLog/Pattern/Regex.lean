import RunLog.Pattern.CharSet

/-!
Matching a pattern against a text. The text is read once; at each character every expression that
could go on is replaced by the expressions that must match behind the character.
-/

namespace RunLog.Pattern

/-- A place in a text: the characters on its two sides, where there are any. -/
structure Place where
  before : Option Char
  after : Option Char

/-- A condition on a place. -/
inductive Look where
  | textStart
  | textEnd
  | lineStart
  | lineEnd
  /-- Lines that a carriage return, a line feed or both of them end. -/
  | lineStartCr
  | lineEndCr
  /-- Words are made of the characters for which `ascii` tells the kind. -/
  | boundary (ascii : Bool)
  | noBoundary (ascii : Bool)
  | wordStart (ascii : Bool)
  | wordEnd (ascii : Bool)
  | wordStartHalf (ascii : Bool)
  | wordEndHalf (ascii : Bool)
deriving DecidableEq

namespace Look

def isWord (ascii : Bool) : Option Char → Bool
  | some c => if ascii then CharSet.asciiWord.contains c.toNat else CharSet.isWordChar c
  | none => false

def holds (look : Look) (place : Place) : Bool :=
  match look with
  | textStart => place.before.isNone
  | textEnd => place.after.isNone
  | lineStart => place.before.isNone || place.before = some '\n'
  | lineEnd => place.after.isNone || place.after = some '\n'
  | lineStartCr =>
    place.before.isNone || place.before = some '\n' ||
      (place.before = some '\r' && place.after ≠ some '\n')
  | lineEndCr =>
    place.after.isNone || place.after = some '\r' ||
      (place.after = some '\n' && place.before ≠ some '\r')
  | boundary ascii => isWord ascii place.before != isWord ascii place.after
  | noBoundary ascii => isWord ascii place.before == isWord ascii place.after
  | wordStart ascii => !isWord ascii place.before && isWord ascii place.after
  | wordEnd ascii => isWord ascii place.before && !isWord ascii place.after
  | wordStartHalf ascii => !isWord ascii place.before
  | wordEndHalf ascii => !isWord ascii place.after

end Look

/-- A regular expression over characters and places. -/
inductive Regex where
  | empty
  | set (chars : CharSet)
  | look (condition : Look)
  | concat (a b : Regex)
  | either (a b : Regex)
  | repetition (inner : Regex) (least : Nat) (greatest : Option Nat)
deriving DecidableEq, Inhabited

namespace Regex

def andThen : Regex → Regex → Regex
  | empty, b => b
  | a, b => concat a b

def isNullable (place : Place) : Regex → Bool
  | empty => true
  | set _ => false
  | look condition => condition.holds place
  | concat a b => a.isNullable place && b.isNullable place
  | either a b => a.isNullable place || b.isNullable place
  | repetition inner least _ => least = 0 || inner.isNullable place

/-- The expressions of which one must match behind a character, if the given one matches from a
place before it. Where the inner expression of a repetition matches without a character, all counts
that are still wanting can be made up there. -/
def steps (place : Place) (c : Char) : Regex → List Regex
  | empty => []
  | set chars => if chars.contains c.toNat then [empty] else []
  | look _ => []
  | concat a b =>
    (a.steps place c).map (·.andThen b) ++ if a.isNullable place then b.steps place c else []
  | either a b => a.steps place c ++ b.steps place c
  | repetition inner least greatest =>
    if greatest = some 0 then []
    else
      let wanting := if inner.isNullable place then 0 else least - 1
      (inner.steps place c).map (·.andThen (repetition inner wanting (greatest.map (· - 1))))

/-- Does an expression match anywhere in the rest of a text? The `active` ones began to match before
it, and the whole expression may begin at every place. -/
def matchesFrom (regex : Regex) (before : Option Char) (active : List Regex) : List Char → Bool
  | [] => (regex :: active).any fun r => r.isNullable ⟨before, none⟩
  | c :: rest =>
    let place : Place := ⟨before, some c⟩
    let candidates := regex :: active
    candidates.any (fun r => r.isNullable place) ||
      matchesFrom regex (some c) (candidates.flatMap (steps place c)).eraseDups rest

def isMatch (regex : Regex) (text : String) : Bool := matchesFrom regex none [] text.toList

/-- What one state of the automaton of an expression costs, in bytes. -/
def stateCost : Nat := 32

/-- The cost of the automaton of an expression, in which repetitions are written out. -/
def cost : Regex → Nat
  | empty => stateCost
  | set chars =>
    if chars.runCount ≤ 1 then stateCost else 2 * stateCost + 60 * chars.runCount
  | look _ => stateCost
  | concat a b => a.cost + b.cost
  | either a b => a.cost + b.cost + 2 * stateCost
  | repetition inner least greatest =>
    match greatest with
    | none => max 1 least * inner.cost + 2 * stateCost
    | some n => least * inner.cost + (n - least) * (inner.cost + stateCost) + stateCost

end Regex

end RunLog.Pattern
