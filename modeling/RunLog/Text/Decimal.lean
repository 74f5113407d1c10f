namespace RunLog.Text

def digit? (c : Char) : Option Nat :=
  if '0' ≤ c ∧ c ≤ '9' then some (c.toNat - 48) else none

def digitsFrom (n : Nat) : List Char → Option Nat
  | [] => some n
  | c :: rest => match digit? c with
    | some d => digitsFrom (n * 10 + d) rest
    | none => none

/-- The number with the given digits, of which there is at least one. -/
def digits? : List Char → Option Nat
  | [] => none
  | cs => digitsFrom 0 cs

/-- The number that a text names, unless it is larger than `bound`. -/
def natural? (bound : Nat) (s : String) : Option Nat :=
  let digits := match s.toList with
    | '+' :: rest => rest
    | cs => cs
  (digits? digits).bind fun n => if n ≤ bound then some n else none

def word? (s : String) : Option UInt64 := (natural? 18446744073709551615 s).map UInt64.ofNat

end RunLog.Text
