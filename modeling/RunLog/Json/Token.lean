import RunLog.Json.Basic
import RunLog.Text.Decimal
import RunLog.Text.Hex

namespace RunLog.Json

/-- A mark, a word, a number or a string of JSON text. -/
inductive Token where
  | openArray
  | closeArray
  | openObject
  | closeObject
  | comma
  | colon
  /-- A text in quotes, a value or the name of a field. -/
  | string (content : Key)
  | scalar (value : Json)

namespace Token

def escaped? : Char → Option Char
  | '"' => some '"'
  | '\\' => some '\\'
  | '/' => some '/'
  | 'b' => some '\x08'
  | 'f' => some '\x0c'
  | 'n' => some '\n'
  | 'r' => some '\r'
  | 't' => some '\t'
  | _ => none

/-- What has been read of a string: its characters, the latest first, the first half of a surrogate
pair if one waits for the second, whether a half was left alone, and whether it has escapes. -/
structure StringPart where
  reversed : List Char := []
  high : Option Nat := none
  broken : Bool := false
  escaped : Bool := false

namespace StringPart

/-- Adds a character; a half that was waiting stays alone. -/
def push (part : StringPart) (c : Char) : StringPart :=
  { part with
    reversed := c :: part.reversed, high := none, broken := part.broken || part.high.isSome }

def pushUnit (part : StringPart) (unit : Nat) : StringPart :=
  if 0xDC00 ≤ unit ∧ unit ≤ 0xDFFF then
    match part.high with
    | some high =>
      { part with
        reversed :=
          Char.ofNat (0x10000 + (high - 0xD800) * 0x400 + (unit - 0xDC00)) :: part.reversed
        high := none }
    | none => { part with broken := true }
  else if 0xD800 ≤ unit ∧ unit ≤ 0xDBFF then
    { part with high := some unit, broken := part.broken || part.high.isSome }
  else part.push (Char.ofNat unit)

/-- The string that was read, without a text if a half of a pair stands alone in it. -/
def finish (part : StringPart) : Key where
  text := if part.broken || part.high.isSome then none
    else some (String.ofList part.reversed.reverse)
  verbatim := !part.escaped

end StringPart

/-- Reads a string behind its opening quote and answers what follows its closing one. -/
def scanString (part : StringPart) : List Char → Option (Key × List Char)
  | [] => none
  | '"' :: rest => some (part.finish, rest)
  | '\\' :: 'u' :: a :: b :: c :: d :: rest =>
    match Text.hexFrom? 0 [a, b, c, d] with
    | some unit => scanString { part.pushUnit unit with escaped := true } rest
    | none => none
  | '\\' :: c :: rest =>
    match escaped? c with
    | some plain => scanString { part.push plain with escaped := true } rest
    | none => none
  | c :: rest => if c.toNat < 0x20 || c = '\\' then none else scanString (part.push c) rest

theorem scanString_length {part : StringPart} {cs : List Char} {s : Key}
    {rest : List Char} (h : scanString part cs = some (s, rest)) : rest.length < cs.length := by
  fun_induction scanString part cs <;> simp_all <;> omega

def scanDigits (reversed : List Nat) : List Char → List Nat × List Char
  | [] => (reversed.reverse, [])
  | c :: rest => match Text.digit? c with
    | some d => scanDigits (d :: reversed) rest
    | none => (reversed.reverse, c :: rest)

theorem scanDigits_length (reversed : List Nat) (cs : List Char) :
    (scanDigits reversed cs).1.length + (scanDigits reversed cs).2.length =
      reversed.length + cs.length := by
  fun_induction scanDigits reversed cs with
  | case1 => simp
  | case2 reversed c rest d hd ih =>
    simp only [List.length_cons] at ih ⊢
    omega
  | case3 => simp

def ofDigits (digits : List Nat) : Nat := digits.foldl (fun n d => n * 10 + d) 0

/-- Reads a point and the digits behind it, if there is a point. -/
def scanFraction : List Char → Option (List Nat × List Char)
  | '.' :: rest =>
    let run := scanDigits [] rest
    if run.1.isEmpty then none else some run
  | rest => some ([], rest)

theorem scanFraction_length_le {cs rest : List Char} {digits : List Nat}
    (h : scanFraction cs = some (digits, rest)) : rest.length ≤ cs.length := by
  unfold scanFraction at h
  split at h
  · next tail =>
    have hlen := scanDigits_length [] tail
    dsimp only at h
    split at h
    · simp at h
    · simp only [Option.some.injEq] at h
      simp only [h, List.length_cons, List.length_nil] at hlen ⊢
      omega
  · simp_all

def scanSign : List Char → Bool × List Char
  | '-' :: rest => (true, rest)
  | '+' :: rest => (false, rest)
  | rest => (false, rest)

theorem scanSign_length_le (cs : List Char) : (scanSign cs).2.length ≤ cs.length := by
  unfold scanSign
  split <;> simp

/-- Reads the letter e and the power behind it, if there is the letter. -/
def scanExponent : List Char → Option (Option Int × List Char)
  | c :: rest =>
    if c = 'e' || c = 'E' then
      let sign := scanSign rest
      let run := scanDigits [] sign.2
      if run.1.isEmpty then none
      else some (some (if sign.1 then -(ofDigits run.1 : Int) else ofDigits run.1), run.2)
    else some (none, c :: rest)
  | [] => some (none, [])

theorem scanExponent_length_le {cs rest : List Char} {exponent : Option Int}
    (h : scanExponent cs = some (exponent, rest)) : rest.length ≤ cs.length := by
  unfold scanExponent at h
  split at h
  · next c tail =>
    split at h
    · have hsign := scanSign_length_le tail
      have hlen := scanDigits_length [] (scanSign tail).2
      dsimp only at h
      split at h
      · simp at h
      · simp only [Option.some.injEq, Prod.mk.injEq] at h
        simp only [← h.2, List.length_cons, List.length_nil] at hlen ⊢
        omega
    · simp_all
  · simp_all

/-- Reads a number from its first digit on: no zero stands before another digit. -/
def scanNumber (negative : Bool) (cs : List Char) : Option (Numeral × List Char) :=
  let (digits, rest) := scanDigits [] cs
  if digits.isEmpty || (digits.head? = some 0 && digits.length ≠ 1) then none
  else match scanFraction rest with
    | none => none
    | some (fraction, rest) => match scanExponent rest with
      | none => none
      | some (exponent, rest) =>
        some ({ negative, whole := ofDigits digits, fraction, exponent }, rest)

theorem scanNumber_length {negative : Bool} {cs rest : List Char} {n : Numeral}
    (h : scanNumber negative cs = some (n, rest)) : rest.length < cs.length := by
  have hlen := scanDigits_length [] cs
  revert h hlen
  unfold scanNumber
  generalize scanDigits [] cs = r
  obtain ⟨digits, tail⟩ := r
  intro h hlen
  simp only at h hlen
  split at h
  · simp at h
  · next hd =>
    have hpos : 0 < digits.length := by
      cases digits <;> simp_all
    split at h
    · simp at h
    · next hf =>
      have := scanFraction_length_le hf
      split at h
      · simp at h
      · next he =>
        have := scanExponent_length_le he
        simp only [Option.some.injEq, Prod.mk.injEq] at h
        simp only [← h.2, List.length_nil] at hlen ⊢
        omega

def afterWord (word : List Char) (cs : List Char) : Option (List Char) :=
  if word.isPrefixOf cs then some (cs.drop word.length) else none

def isBlank (c : Char) : Bool := c = ' ' || c = '\n' || c = '\t' || c = '\r'

/-- Reads the token that starts with the given character, which is no blank. -/
def scan (c : Char) (rest : List Char) : Option (Token × List Char) :=
  match c with
  | '[' => some (.openArray, rest)
  | ']' => some (.closeArray, rest)
  | '\x7b' => some (.openObject, rest)
  | '\x7d' => some (.closeObject, rest)
  | ',' => some (.comma, rest)
  | ':' => some (.colon, rest)
  | '"' => (scanString {} rest).map fun (s, rest) => (.string s, rest)
  | 'n' => (afterWord ['u', 'l', 'l'] rest).map fun rest => (.scalar .null, rest)
  | 't' => (afterWord ['r', 'u', 'e'] rest).map fun rest => (.scalar (.bool true), rest)
  | 'f' => (afterWord ['a', 'l', 's', 'e'] rest).map fun rest => (.scalar (.bool false), rest)
  | '-' => (scanNumber true rest).map fun (n, rest) => (.scalar (.number n), rest)
  | c => (scanNumber false (c :: rest)).map fun (n, rest) => (.scalar (.number n), rest)

theorem afterWord_length_le {word cs rest : List Char} (h : afterWord word cs = some rest) :
    rest.length ≤ cs.length := by
  unfold afterWord at h
  split at h
  · simp only [Option.some.injEq] at h
    simp [← h]
  · simp at h

theorem scan_length_le {c : Char} {cs rest : List Char} {token : Token}
    (h : scan c cs = some (token, rest)) : rest.length ≤ cs.length := by
  unfold scan at h
  split at h
  case h_7 =>
    obtain ⟨⟨s, tail⟩, hs, ht⟩ := Option.map_eq_some_iff.mp h
    obtain ⟨-, rfl⟩ := Prod.mk.inj ht
    exact Nat.le_of_lt (scanString_length hs)
  case h_8 | h_9 | h_10 =>
    obtain ⟨tail, hs, ht⟩ := Option.map_eq_some_iff.mp h
    obtain ⟨-, rfl⟩ := Prod.mk.inj ht
    exact afterWord_length_le hs
  case h_11 =>
    obtain ⟨⟨n, tail⟩, hs, ht⟩ := Option.map_eq_some_iff.mp h
    obtain ⟨-, rfl⟩ := Prod.mk.inj ht
    exact Nat.le_of_lt (scanNumber_length hs)
  case h_12 =>
    obtain ⟨⟨n, tail⟩, hs, ht⟩ := Option.map_eq_some_iff.mp h
    obtain ⟨-, rfl⟩ := Prod.mk.inj ht
    exact Nat.le_of_lt_succ (scanNumber_length hs)
  all_goals simp_all

/-- The tokens of a text behind those already read, the latest of which comes first. -/
def scanAll (reversed : List Token) (cs : List Char) : Option (List Token) :=
  match cs with
  | [] => some reversed.reverse
  | c :: rest =>
    if isBlank c then scanAll reversed rest
    else match _h : scan c rest with
      | some (token, rest) => scanAll (token :: reversed) rest
      | none => none
termination_by cs.length
decreasing_by
  · simp
  · have := scan_length_le _h
    simp only [List.length_cons]
    omega

end Token

end RunLog.Json
