import RunLog.Error
import RunLog.Json.Canonical
import RunLog.Json.Reader
import RunLog.Json.Record
import RunLog.Line
import RunLog.Text.Decimal

namespace RunLog.Loki

/-- The data of an answer: for each stream the entries that it holds. -/
structure QueryData where
  resultType : Option String
  /-- The entries of all streams, each one an array of values. -/
  streams : List (List (List Json))

/-- An answer to a range query. -/
structure QueryResponse where
  status : Option String
  data : Option QueryData

namespace QueryResponse

/-- A field with a text, which may be absent or null. -/
def optionalText? : Option Json → Option (Option String)
  | none | some .null => some none
  | some (.string (some s)) => some (some s)
  | some _ => none

/-- How many arrays and objects may stand inside one another in a value of an entry, which is itself
the sixth level of the document. -/
def roomInEntry : Nat := 121

def entry? (entry : Json) : Option (List Json) := do
  let items ← entry.items?
  if Json.arePlain roomInEntry items then some items else none

def stream? (stream : Json) : Option (List (List Json)) := do
  match ← Json.record? [⟨"values", true⟩] stream with
  | [some values] => (← values.items?).mapM entry?
  | _ => some []

def data? (data : Json) : Option QueryData := do
  match ← Json.record? [⟨"resultType", true⟩, ⟨"result", true⟩] data with
  | [resultType, result] =>
    let resultType ← optionalText? resultType
    let streams ← match result with
      | none => some []
      | some result => (← result.items?).mapM stream?
    return { resultType, streams }
  | _ => none

/-- The answer that a document is, if it has the shape of one. -/
def ofJson? (document : Json) : Option QueryResponse := do
  match ← Json.record? [⟨"status", true⟩, ⟨"data", false⟩] document with
  | [status, data] =>
    let status ← optionalText? status
    let data ← match data with
      | none | some .null => some none
      | some data => (data? data).map some
    return { status, data }
  | _ => none

/-- The line of an entry: its id in decimal and its text come first, and the rest is passed over. -/
def line (entry : List Json) : Except RetrievalError LogLine :=
  match entry with
  | .string (some time) :: .string (some text) :: _ =>
    match Text.word? time with
    | some nanos => .ok ⟨⟨nanos⟩, text⟩
    | none => .error (.malformed ("invalid timestamp '" ++ time ++ "'"))
  | entry =>
    .error (.malformed ("expected [timestamp, line], got " ++ (Json.array entry).toCanonical))

/-- The lines of an answer in the order of the document; only a successful answer with streams has
any. -/
def lines (response : QueryResponse) : Except RetrievalError (List LogLine) := do
  if let some status := response.status then
    if status ≠ "success" then
      throw (.malformed ("query status '" ++ status ++ "'"))
  let some data := response.data | return []
  if let some resultType := data.resultType then
    if resultType ≠ "streams" then
      throw (.malformed ("expected streams, got '" ++ resultType ++ "'"))
  data.streams.flatten.mapM line

def parseBody (body : String) : Except RetrievalError (List LogLine) :=
  match Json.parse? body.toList with
  | none => .error (.malformed "the body is no JSON document")
  | some document => match ofJson? document with
    | none => .error (.malformed "the document is no answer to a range query")
    | some response => response.lines

end QueryResponse

end RunLog.Loki
