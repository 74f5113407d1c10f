import RunLog.Json.Token

/-!
JSON text as a value. A machine takes the tokens one by one; it keeps the arrays and objects that
are still open, so nesting costs no recursion.
-/

namespace RunLog.Json

/-- An array or object that is still open, with what it holds so far, the latest first. -/
inductive Frame where
  | inArray (reversed : List Json)
  | inObject (reversed : List (Key × Json)) (key : Key)

/-- What the text must go on with. -/
inductive Expected where
  | value
  /-- A value, or the end of an array just opened. -/
  | valueOrClose
  /-- A key, or the end of an object just opened. -/
  | keyOrClose
  | key (reversed : List (Key × Json))
  | colon (reversed : List (Key × Json)) (key : Key)
  /-- A comma or the end of the innermost open frame, whose last value is complete. -/
  | commaOrClose
  /-- Nothing: the value is complete. -/
  | nothing (value : Json)

/-- The open frames, the innermost first, and what must come. -/
structure Machine where
  frames : List Frame
  expected : Expected

namespace Machine

def initial : Machine := ⟨[], .value⟩

def complete (frames : List Frame) (value : Json) : Machine :=
  match frames with
  | [] => ⟨[], .nothing value⟩
  | .inArray reversed :: frames => ⟨.inArray (value :: reversed) :: frames, .commaOrClose⟩
  | .inObject reversed key :: frames =>
    ⟨.inObject ((key, value) :: reversed) key :: frames, .commaOrClose⟩

def startValue (frames : List Frame) : Token → Option Machine
  | .scalar value => some (complete frames value)
  | .string content => some (complete frames (.string content.text))
  | .openArray => some ⟨.inArray [] :: frames, .valueOrClose⟩
  | .openObject => some ⟨frames, .keyOrClose⟩
  | _ => none

def step (machine : Machine) (token : Token) : Option Machine :=
  match machine.expected, machine.frames, token with
  | .value, frames, token => startValue frames token
  | .valueOrClose, .inArray [] :: frames, .closeArray => some (complete frames (.array []))
  | .valueOrClose, frames, token => startValue frames token
  | .keyOrClose, frames, .closeObject => some (complete frames (.object []))
  | .keyOrClose, frames, .string key => some ⟨frames, .colon [] key⟩
  | .key reversed, frames, .string key => some ⟨frames, .colon reversed key⟩
  | .colon reversed key, frames, .colon => some ⟨.inObject reversed key :: frames, .value⟩
  | .commaOrClose, .inArray reversed :: frames, .closeArray =>
    some (complete frames (.array reversed.reverse))
  | .commaOrClose, .inObject reversed _ :: frames, .closeObject =>
    some (complete frames (.object reversed.reverse))
  | .commaOrClose, .inArray reversed :: frames, .comma => some ⟨.inArray reversed :: frames, .value⟩
  | .commaOrClose, .inObject reversed _ :: frames, .comma => some ⟨frames, .key reversed⟩
  | _, _, _ => none

def run (machine : Machine) (tokens : List Token) : Option Machine := tokens.foldlM step machine

/-- The value that was read, once nothing more is expected. -/
def result? (machine : Machine) : Option Json :=
  match machine.expected with
  | .nothing value => some value
  | _ => none

end Machine

/-- The value of a text, if the text is one JSON value with blanks around its tokens. -/
def parse? (text : List Char) : Option Json := do
  let tokens ← Token.scanAll [] text
  let machine ← Machine.initial.run tokens
  machine.result?

end RunLog.Json
