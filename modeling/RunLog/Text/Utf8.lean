namespace RunLog.Text

abbrev Bounds := Nat × Nat

def continuation : Bounds := (0x80, 0xBF)

/-- What the first byte of a character says: its share of the code point, and the bounds of the
bytes that must follow. -/
def lead? (b : Nat) : Option (Nat × List Bounds) :=
  if b < 0x80 then some (b, [])
  else if b < 0xC2 then none
  else if b < 0xE0 then some (b - 0xC0, [continuation])
  else if b = 0xE0 then some (0, [(0xA0, 0xBF), continuation])
  else if b = 0xED then some (13, [(0x80, 0x9F), continuation])
  else if b < 0xF0 then some (b - 0xE0, [continuation, continuation])
  else if b = 0xF0 then some (0, [(0x90, 0xBF), continuation, continuation])
  else if b < 0xF4 then some (b - 0xF0, [continuation, continuation, continuation])
  else if b = 0xF4 then some (4, [(0x80, 0x8F), continuation, continuation])
  else none

/-- Takes bytes as long as they keep the bounds: the code point if all came, and what follows. -/
def follow (value : Nat) : List Bounds → List UInt8 → Option Nat × List UInt8
  | [], rest => (some value, rest)
  | _ :: _, [] => (none, [])
  | (least, greatest) :: bounds, b :: rest =>
    if least ≤ b.toNat && b.toNat ≤ greatest then follow (value * 64 + b.toNat % 64) bounds rest
    else (none, b :: rest)

theorem length_follow_le (value : Nat) (bounds : List Bounds) (bytes : List UInt8) :
    (follow value bounds bytes).2.length ≤ bytes.length := by
  fun_induction follow value bounds bytes with
  | case3 value least greatest bounds b rest _ ih =>
    simp only [List.length_cons]
    omega
  | _ => simp

def replacement : Char := '\uFFFD'

def decodeChars (bytes : List UInt8) : List Char :=
  match bytes with
  | [] => []
  | b :: rest =>
    match lead? b.toNat with
    | none => replacement :: decodeChars rest
    | some (value, bounds) =>
      let followed := follow value bounds rest
      (followed.1.elim replacement Char.ofNat) :: decodeChars followed.2
termination_by bytes.length
decreasing_by
  · simp
  · have := length_follow_le value bounds rest
    simp only [List.length_cons]
    omega

/-- The text that bytes stand for. Where they are not UTF-8, each beginning of a character that does not go
on stands for one replacement character, and so does each byte that can begin none. -/
def decodeLossy (bytes : List UInt8) : String := String.ofList (decodeChars bytes)

/-- The text that bytes stand for, if they are UTF-8. -/
def decode? (bytes : List UInt8) : Option String := String.fromUTF8? ⟨bytes.toArray⟩

def encode (s : String) : List UInt8 := s.toUTF8.data.toList

end RunLog.Text
