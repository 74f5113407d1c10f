import RunLog.Toml.Value

namespace RunLog.Toml

/-- What a line says. -/
inductive Statement where
  | nothing
  | table (target : List String × String)
  | nextTable (target : List String × String)
  | entry (target : List String × String) (value : Json)

def statement : Reader Statement := fun text =>
  match skipBlanks text with
  | [] => some (.nothing, [])
  | '#' :: rest => some (.nothing, '#' :: rest)
  | '\n' :: rest => some (.nothing, '\n' :: rest)
  | '\r' :: rest => some (.nothing, '\r' :: rest)
  | '[' :: '[' :: rest => do
    match ← path rest with
    | (target, ']' :: ']' :: rest) => some (.nextTable target, rest)
    | _ => none
  | '[' :: rest => do
    match ← path rest with
    | (target, ']' :: rest) => some (.table target, rest)
    | _ => none
  | text => (entry (value maximalDepth) text).map fun ((target, content), rest) =>
    (.entry target content, rest)

/-- Reads the statements of a text, behind those already read, the latest of which comes first. A
line takes at least one character, as the test for shorter rests makes plain. -/
def statements (reversed : List Statement) (text : List Char) : Option (List Statement) :=
  match statement text with
  | none => none
  | some (next, rest) => match lineEnd? rest with
    | none => none
    | some rest =>
      if rest.isEmpty then some (next :: reversed).reverse
      else if rest.length < text.length then statements (next :: reversed) rest
      else none
termination_by text.length

/-- The tables of a document so far, and the path of the last header. -/
structure Document where
  tables : Entries := []
  header : List String := []

namespace Document

/-- Adds what a statement says; none if it contradicts what was said before. -/
def add (document : Document) : Statement → Option Document
  | .nothing => some document
  | .table target => (document.tables.openTable target).map (⟨·, target.1 ++ [target.2]⟩)
  | .nextTable target => (document.tables.openNext target).map (⟨·, target.1 ++ [target.2]⟩)
  | .entry target value =>
    (document.tables.assignUnder document.header target value).map (⟨·, document.header⟩)

end Document

/-- A text without the mark of the byte order at its front, if it has one. -/
def skipMark : List Char → List Char
  | '\uFEFF' :: rest => rest
  | text => text

def parse? (text : List Char) : Option Json := do
  let document ← (← statements [] (skipMark text)).foldlM Document.add {}
  return document.tables.toJson

end RunLog.Toml
