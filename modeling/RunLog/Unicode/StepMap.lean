/-!
Tables over the code points. Most properties of characters hold for long runs of code points, so a
table lists the runs, and it is written as letters and digits, about two for each run.
-/

namespace RunLog.Unicode

def digitValue (c : Char) : Nat := if c.isDigit then c.toNat - 48 else c.toNat - 87

/-- The numbers that a text packs. A capital letter is the last digit of each number and tells 26
values apart; the digits before it, if there are any, are small letters and decimal digits. -/
def unpack (texts : List String) : List Nat :=
  let step (state : Array Nat × Nat) (c : Char) : Array Nat × Nat :=
    if c.isUpper then (state.1.push (state.2 * 26 + (c.toNat - 65)), 0)
    else (state.1, state.2 * 36 + digitValue c)
  (texts.foldl (fun state text => text.toList.foldl step state) (#[], 0)).1.toList

/-- A value for every code point, which changes only where a step begins. -/
structure StepMap (α : Type) where
  /-- Where each step begins, in ascending order, and the value from there on. -/
  steps : Array (Nat × α)

namespace StepMap

variable {α : Type}

/-- The number of steps that begin at or before a code point, which lies between two bounds. -/
def countUpTo (steps : Array (Nat × α)) (n low high : Nat) : Nat :=
  if low < high then
    let middle := (low + high) / 2
    match steps[middle]? with
    | some step =>
      if step.1 ≤ n then countUpTo steps n (middle + 1) high else countUpTo steps n low middle
    | none => low
  else low
termination_by high - low
decreasing_by all_goals omega

def stepAt? (map : StepMap α) (n : Nat) : Option (Nat × α) :=
  map.steps[countUpTo map.steps n 0 map.steps.size - 1]?

def get? (map : StepMap α) (n : Nat) : Option α := (map.stepAt? n).map Prod.snd

/-- The map whose runs have the given lengths and values, from code point 0 on. -/
def ofRuns (runs : List (Nat × α)) : StepMap α :=
  ⟨(runs.foldl (fun state run => (state.1.push (state.2, run.2), state.2 + run.1)) (#[], 0)).1⟩

end StepMap

/-- Numbers in pairs; a last number without a partner is dropped. -/
def pairs : List Nat → List (Nat × Nat)
  | a :: b :: rest => (a, b) :: pairs rest
  | _ => []

/-- The map that a text packs: for each run its length and its value. -/
def numberMap (texts : List String) : StepMap Nat := .ofRuns (pairs (unpack texts))

abbrev CodeSet := StepMap Bool

/-- Runs outside and inside a set take turns; the first one lies outside. -/
def alternating (inside : Bool) : List Nat → List (Nat × Bool)
  | [] => [(0, inside)]
  | length :: rest => (length, inside) :: alternating (!inside) rest

/-- The set that a text packs: the lengths of the runs outside and inside it. -/
def codeSet (texts : List String) : CodeSet := .ofRuns (alternating false (unpack texts))

def StepMap.contains (set : CodeSet) (n : Nat) : Bool := (set.get? n).getD false

end RunLog.Unicode
