import RunLog.Cursors.Cache
import RunLog.Json.Canonical
import RunLog.Json.Reader
import RunLog.Json.Record
import RunLog.Text.Decimal

/-!
The offsets of a cache as JSON. A snapshot lists the streams in the order of their keys and leaves
out those without offsets, so caches that answer alike have one text.
-/

namespace RunLog

namespace StreamKey

def toJson (key : StreamKey) : Json :=
  .fields [("pipeline_id", .text key.pipeline), ("run_number", .nat key.run.toNat),
    ("step_id", .textOrNull key.step)]

def ofJson? (value : Json) : Option StreamKey := do
  let fields := [⟨"pipeline_id", false⟩, ⟨"run_number", false⟩, ⟨"step_id", false⟩]
  match ← Json.record? fields value with
  | [some pipeline, some run, step] =>
    let pipeline ← pipeline.text?
    let run ← run.natural? Numeral.greatestWord
    let step ← match step.bind Json.orNone with
      | none => some none
      | some step => step.text?.map some
    return ⟨pipeline, .ofNat run, step⟩
  | _ => none

end StreamKey

namespace ResumePoint

def toJson (point : ResumePoint) : Json :=
  let after := match point.after with
    | some id => Json.nat id.nanos.toNat
    | none => .null
  .fields [("after", after), ("partial", .nat point.intoNext.toNat)]

/-- The resume point that a JSON value gives; a missing count of bytes is zero. -/
def ofJson? (value : Json) : Option ResumePoint := do
  match ← Json.record? [⟨"after", false⟩, ⟨"partial", true⟩] value with
  | [after, intoNext] =>
    let after ← match after.bind Json.orNone with
      | none => some none
      | some id => (id.natural? Numeral.greatestWord).map fun n => some ⟨.ofNat n⟩
    let intoNext ← match intoNext with
      | none => some 0
      | some n => n.natural? Numeral.greatestWord
    return ⟨after, .ofNat intoNext⟩
  | _ => none

end ResumePoint

namespace OffsetMap

def toJson (map : OffsetMap) : Json :=
  .fields (map.entries.map fun e => (toString e.1.toNat, e.2.toJson))

/-- The offset that a key names: a number as JSON writes numbers, with no character escaped. -/
def offset? (key : Key) : Option UInt64 :=
  match key.text, key.verbatim with
  | some text, true => match Json.Token.scanNumber false text.toList with
    | some (n, []) => (n.natural? Numeral.greatestWord).map UInt64.ofNat
    | _ => none
  | _, _ => none

def ofJson? : Json → Option OffsetMap
  | .object fields => do
    let entries ← fields.mapM fun (key, value) => do
      return (← offset? key, ← ResumePoint.ofJson? value)
    return ofList entries
  | _ => none

end OffsetMap

/-- The streams of a cache with their offsets. -/
structure CursorSnapshot where
  streams : List (StreamKey × OffsetMap)

namespace CursorSnapshot

def toJson (snapshot : CursorSnapshot) : Json :=
  .fields [("streams", .array (snapshot.streams.map fun e =>
    .fields [("key", e.1.toJson), ("offsets", e.2.toJson)]))]

def stream? (value : Json) : Option (StreamKey × OffsetMap) := do
  match ← Json.record? [⟨"key", false⟩, ⟨"offsets", false⟩] value with
  | [some key, some offsets] => return (← StreamKey.ofJson? key, ← OffsetMap.ofJson? offsets)
  | _ => none

def ofJson? (value : Json) : Option CursorSnapshot := do
  match ← Json.record? [⟨"streams", false⟩] value with
  | [some streams] => return ⟨← (← streams.items?).mapM stream?⟩
  | _ => none

def parse? (text : List Char) : Option CursorSnapshot := (Json.parse? text).bind ofJson?

def insertStream (entry : StreamKey × OffsetMap) :
    List (StreamKey × OffsetMap) → List (StreamKey × OffsetMap)
  | [] => [entry]
  | e :: rest =>
    if entry.1.compare e.1 = .gt then e :: insertStream entry rest else entry :: e :: rest

end CursorSnapshot

namespace CursorCache

/-- The streams of a cache that have offsets, in the order of their keys. -/
def snapshot (cache : CursorCache) : CursorSnapshot :=
  let streams := cache.live.map fun e => (e.1, cache.offsets e.2)
  ⟨(streams.filter fun e => !e.2.isEmpty).foldr CursorSnapshot.insertStream []⟩

/-- Makes the given offsets those of a stream, in a new generation. -/
def putStream (cache : CursorCache) (entry : StreamKey × OffsetMap) : CursorCache :=
  let cache := (cache.forget entry.1).2
  { generations := cache.generations ++ [entry.2]
    live := (entry.1, cache.generations.length) :: cache.live }

/-- The cache with the streams of a snapshot; of a repeated key the last one counts. -/
def ofSnapshot (snapshot : CursorSnapshot) : CursorCache := snapshot.streams.foldl putStream .empty

end CursorCache

end RunLog
