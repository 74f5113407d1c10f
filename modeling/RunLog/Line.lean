import RunLog.Instant

namespace RunLog

/-- The place of a line in the backend: ids are ordered, but two neighbours may lie far apart. -/
structure LineId where
  /-- Nanoseconds since 1970. -/
  nanos : UInt64
deriving DecidableEq, Repr, Inhabited

namespace LineId

instance : LT LineId := ⟨fun a b => a.nanos < b.nanos⟩
instance : LE LineId := ⟨fun a b => a.nanos ≤ b.nanos⟩
instance (a b : LineId) : Decidable (a < b) := inferInstanceAs (Decidable (a.nanos < b.nanos))
instance (a b : LineId) : Decidable (a ≤ b) := inferInstanceAs (Decidable (a.nanos ≤ b.nanos))
instance : Max LineId := ⟨fun a b => if a ≤ b then b else a⟩

def least : LineId := ⟨0⟩

/-- The highest id, which no line of a real log carries. -/
def greatest : LineId := ⟨18446744073709551615⟩

/-- The first id after this one; the highest id is its own successor. -/
def next (id : LineId) : LineId := if id.nanos = 18446744073709551615 then id else ⟨id.nanos + 1⟩

def ofInstant (t : Instant) : LineId := ⟨UInt64.ofNat t.epochNanos⟩

def toInstant (id : LineId) : Instant := Instant.ofEpochNanos id.nanos.toNat id.nanos.toNat_lt

def text (id : LineId) : String := toString id.nanos.toNat

end LineId

/-- One line of a log, without its newline. -/
structure LogLine where
  id : LineId
  text : String
deriving DecidableEq, Inhabited

namespace LogLine

/-- The bytes of a line as a reader gets them: the text in UTF-8 and a newline. -/
def bytes (line : LogLine) : List UInt8 := line.text.toUTF8.data.toList ++ [10]

end LogLine

/-- The answer to one query: its lines in the order of the backend, and the status it came with. -/
structure Page where
  lines : List LogLine
  /-- Status of the request behind the page, 0 if there was none. -/
  status : Nat := 0
deriving DecidableEq, Inhabited

namespace Page

/-- The highest id of a page, wherever it stands. -/
def maxId (page : Page) : Option LineId := (page.lines.map LogLine.id).max?

end Page

end RunLog
