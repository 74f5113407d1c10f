import RunLog.Toml.Scalar
import RunLog.Toml.Table
import RunLog.Toml.Token

namespace RunLog.Toml

/-- Reads a word that stands for a value. A date and a time may have a space between them. -/
def word : Reader Json := fun text =>
  let first := text.takeWhile isWordChar
  let rest := text.dropWhile isWordChar
  let alone := (wordValue? first).map fun value => (value, rest)
  match rest with
  | ' ' :: behind =>
    let second := behind.takeWhile isWordChar
    if isDate first && isTime true second then
      some (ofDate (first ++ ' ' :: second), behind.dropWhile isWordChar)
    else alone
  | _ => alone

/-- Reads items with commas between them up to the end of an array; a comma may follow the last
one. An item takes at least one character, as the test for shorter rests makes plain. -/
def items (value : Reader Json) (reversed : List Json) (text : List Char) :
    Option (Json × List Char) :=
  let text' := skipLines false text
  match text' with
  | ']' :: rest => some (.array reversed.reverse, rest)
  | _ => match value text' with
    | none => none
    | some (item, rest) => match skipLines false rest with
      | ']' :: rest => some (.array (item :: reversed).reverse, rest)
      | ',' :: rest =>
        if rest.length < text.length then items value (item :: reversed) rest else none
      | _ => none
termination_by text.length

/-- Reads an entry of an inline table: a path, an equals sign and a value. -/
def entry (value : Reader Json) : Reader ((List String × String) × Json) := fun text => do
  let (target, rest) ← path text
  match rest with
  | '=' :: rest =>
    let (content, rest) ← value (skipBlanks rest)
    return ((target, content), skipBlanks rest)
  | _ => none

/-- Reads entries with commas between them up to the end of an inline table, and adds them to those
read before. -/
def entries (value : Reader Json) (table : Entries) (text : List Char) :
    Option (Entries × List Char) :=
  match entry value text with
  | none => none
  | some ((target, content), rest) => match table.assign target content with
    | none => none
    | some table => match rest with
      | '\x7d' :: rest => some (table, rest)
      | ',' :: rest => if rest.length < text.length then entries value table rest else none
      | _ => none
termination_by text.length

/-- Arrays and inline tables hold one another this many times at most. -/
def maximalDepth : Nat := 79

def value : Nat → Reader Json
  | _, '"' :: rest => (quotedText ('"' :: rest)).map fun (s, rest) => (.text s, rest)
  | _, '\'' :: rest => (quotedText ('\'' :: rest)).map fun (s, rest) => (.text s, rest)
  | depth + 1, '[' :: rest => items (value depth) [] rest
  | depth + 1, '\x7b' :: rest =>
    match skipBlanks rest with
    | '\x7d' :: rest => some (.fields [], rest)
    | rest => (entries (value depth) [] rest).map fun (table, rest) => (table.toJson, rest)
  | _, text => word text

end RunLog.Toml
