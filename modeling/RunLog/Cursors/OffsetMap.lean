import RunLog.Line

namespace RunLog

/-- A place between two bytes of a log. -/
structure ResumePoint where
  /-- The last line delivered in full, if there is one. -/
  after : Option LineId
  /-- Bytes delivered of the line behind it. -/
  intoNext : UInt64 := 0
deriving DecidableEq, Inhabited

/-- Resume points by offset, in ascending order. -/
structure OffsetMap where
  entries : List (UInt64 × ResumePoint) := []
deriving DecidableEq, Inhabited

namespace OffsetMap

def empty : OffsetMap := {}

def get? (map : OffsetMap) (offset : UInt64) : Option ResumePoint := map.entries.lookup offset

/-- Puts an entry in its place among ordered entries, over an older one at the same offset. -/
def insertEntry (offset : UInt64) (point : ResumePoint) :
    List (UInt64 × ResumePoint) → List (UInt64 × ResumePoint)
  | [] => [(offset, point)]
  | (o, p) :: rest =>
    if offset < o then (offset, point) :: (o, p) :: rest
    else if offset = o then (offset, point) :: rest
    else (o, p) :: insertEntry offset point rest

/-- Records a point at an offset, over an older one. -/
def insert (map : OffsetMap) (offset : UInt64) (point : ResumePoint) : OffsetMap :=
  ⟨insertEntry offset point map.entries⟩

/-- The map with the given entries, of which the last one counts at each offset. -/
def ofList (entries : List (UInt64 × ResumePoint)) : OffsetMap :=
  entries.foldl (fun map entry => map.insert entry.1 entry.2) empty

def isEmpty (map : OffsetMap) : Bool := map.entries.isEmpty

end OffsetMap

end RunLog
