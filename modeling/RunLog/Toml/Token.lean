import RunLog.Text.Hex

namespace RunLog.Toml

abbrev Reader (α : Type) := List Char → Option (α × List Char)

def isBlank (c : Char) : Bool := c = ' ' || c = '\t'

def skipBlanks (text : List Char) : List Char := text.dropWhile isBlank

/-- A character that may stand in a comment or in a text in quotes: no control character but a
tab. -/
def isPlain (c : Char) : Bool := c = '\t' || (0x20 ≤ c.toNat && c.toNat ≠ 0x7F)

def lineBreak? : List Char → Option (List Char)
  | '\n' :: rest => some rest
  | '\r' :: '\n' :: rest => some rest
  | _ => none

/-- What follows the end of a line: blanks, perhaps a comment, and a line break or the end. -/
def lineEnd? (text : List Char) : Option (List Char) :=
  let rest := match skipBlanks text with
    | '#' :: comment => comment.dropWhile isPlain
    | rest => rest
  if rest.isEmpty then some [] else lineBreak? rest

/-- A text without the blanks, line breaks and comments at its front. -/
def skipLines (inComment : Bool) : List Char → List Char
  | '\n' :: rest => skipLines false rest
  | '\r' :: '\n' :: rest => skipLines false rest
  | c :: rest =>
    if inComment then (if isPlain c then skipLines true rest else c :: rest)
    else if isBlank c then skipLines false rest
    else if c = '#' then skipLines true rest
    else c :: rest
  | [] => []

def codePoint? (digits : List Char) : Option Char := do
  let n ← Text.hexFrom? 0 digits
  if n.isValidChar then some (Char.ofNat n) else none

/-- Reads what stands behind a backslash: the name of one character. -/
def escape : Reader Char
  | 'b' :: rest => some ('\x08', rest)
  | 't' :: rest => some ('\t', rest)
  | 'n' :: rest => some ('\n', rest)
  | 'f' :: rest => some ('\x0c', rest)
  | 'r' :: rest => some ('\r', rest)
  | '"' :: rest => some ('"', rest)
  | '\\' :: rest => some ('\\', rest)
  | 'u' :: rest =>
    if rest.length < 4 then none else (codePoint? (rest.take 4)).map (·, rest.drop 4)
  | 'U' :: rest =>
    if rest.length < 8 then none else (codePoint? (rest.take 8)).map (·, rest.drop 8)
  | _ => none

/-- A character and what is left behind it is shorter than the text was. -/
theorem escape_length {text rest : List Char} {c : Char} (h : escape text = some (c, rest)) :
    rest.length < text.length := by
  unfold escape at h
  split at h
  case h_8 tail | h_9 tail =>
    split at h
    · simp at h
    · obtain ⟨d, -, hd⟩ := Option.map_eq_some_iff.mp h
      obtain ⟨-, rfl⟩ := Prod.mk.inj hd
      simp only [List.length_drop, List.length_cons]
      omega
  all_goals simp_all

/-- Reads a text behind its double quote, up to the next one; the characters before it come
reversed. -/
def basicText (reversed : List Char) (text : List Char) : Option (String × List Char) :=
  match text with
  | [] => none
  | '"' :: rest => some (String.ofList reversed.reverse, rest)
  | '\\' :: rest => match _h : escape rest with
    | some (c, rest) => basicText (c :: reversed) rest
    | none => none
  | c :: rest => if isPlain c then basicText (c :: reversed) rest else none
termination_by text.length
decreasing_by
  · have := escape_length _h
    simp only [List.length_cons]
    omega
  · simp

/-- Reads a text behind its single quote, up to the next one. -/
def literalText (reversed : List Char) : Reader String
  | [] => none
  | '\'' :: rest => some (String.ofList reversed.reverse, rest)
  | c :: rest => if isPlain c then literalText (c :: reversed) rest else none

/-- Ends a text at three quotes: up to two more of them still belong to it. -/
def endLines (quote : Char) (reversed rest : List Char) : String × List Char :=
  let extra := ((rest.take 2).takeWhile (· = quote)).length
  (String.ofList (List.replicate extra quote ++ reversed).reverse, rest.drop extra)

/-- Reads a text of several lines behind its three double quotes. A backslash at the end of a line
takes with it all blanks and line breaks that follow; while they are passed over, `inGap` holds. -/
def basicLines (inGap : Bool) (reversed : List Char) (text : List Char) :
    Option (String × List Char) :=
  match inGap, text with
  | _, [] => none
  | true, '\r' :: '\n' :: rest => basicLines true reversed rest
  | true, c :: rest =>
    if isBlank c || c = '\n' then basicLines true reversed rest
    else basicLines false reversed (c :: rest)
  | false, '"' :: '"' :: '"' :: rest => some (endLines '"' reversed rest)
  | false, '\n' :: rest => basicLines false ('\n' :: reversed) rest
  | false, '\r' :: '\n' :: rest => basicLines false ('\n' :: reversed) rest
  | false, '\\' :: rest =>
    if (lineBreak? (skipBlanks rest)).isSome then basicLines true reversed rest
    else match _h : escape rest with
      | some (c, rest) => basicLines false (c :: reversed) rest
      | none => none
  | false, c :: rest => if isPlain c then basicLines false (c :: reversed) rest else none
termination_by (text.length, if inGap then 1 else 0)
decreasing_by
  all_goals
    simp only [List.length_cons, Prod.lex_def]
    grind [→ escape_length]

/-- Reads a text of several lines behind its three single quotes. -/
def literalLines (reversed : List Char) : Reader String
  | [] => none
  | '\'' :: '\'' :: '\'' :: rest => some (endLines '\'' reversed rest)
  | '\n' :: rest => literalLines ('\n' :: reversed) rest
  | '\r' :: '\n' :: rest => literalLines ('\n' :: reversed) rest
  | c :: rest => if isPlain c then literalLines (c :: reversed) rest else none

/-- A text without the line break at its front, if it has one. -/
def skipLineBreak (text : List Char) : List Char := (lineBreak? text).getD text

def quotedText : Reader String
  | '"' :: '"' :: '"' :: rest => basicLines false [] (skipLineBreak rest)
  | '"' :: rest => basicText [] rest
  | '\'' :: '\'' :: '\'' :: rest => literalLines [] (skipLineBreak rest)
  | '\'' :: rest => literalText [] rest
  | _ => none

def isNameChar (c : Char) : Bool := c.isAlphanum || c = '_' || c = '-'

/-- Reads a name: bare, or in quotes on one line. -/
def name : Reader String
  | '"' :: rest => basicText [] rest
  | '\'' :: rest => literalText [] rest
  | text =>
    let bare := text.takeWhile isNameChar
    if bare.isEmpty then none else some (String.ofList bare, text.dropWhile isNameChar)

def maximalPath : Nat := 79

/-- Reads names with dots between them, of which at most `room` may come. -/
def names : Nat → Reader (List String)
  | 0, _ => none
  | room + 1, text => do
    let (first, rest) ← name (skipBlanks text)
    match skipBlanks rest with
    | '.' :: rest =>
      let (more, rest) ← names room rest
      return (first :: more, rest)
    | rest => return ([first], rest)

/-- Reads the path to an entry: the names on the way, and the name of the entry. -/
def path : Reader (List String × String) := fun text => do
  let (all, rest) ← names maximalPath text
  let last ← all.getLast?
  return ((all.dropLast, last), rest)

end RunLog.Toml
