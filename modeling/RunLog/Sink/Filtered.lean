import RunLog.Sink
import RunLog.Text.Blank
import RunLog.Text.Utf8

/-!
A sink that passes on chosen lines only. To those who write into it all bytes count as written, so
offsets in a log stay the same whatever is chosen.
-/

namespace RunLog

/-- A sink before another one that passes on only the lines a test keeps. -/
structure FilteredSink (κ : Type) where
  inner : κ
  /-- The test on the text of a line without its end; without a test everything is passed on. -/
  keeps : Option (String → Bool) := none
  /-- The beginning of a line whose end has not come yet. -/
  pending : List UInt8 := []

namespace FilteredSink

variable {κ : Type} [ByteSink κ]

def newline : UInt8 := 10

def lineText (line : List UInt8) : String :=
  Text.dropEnd (· = '\n') (Text.decodeLossy line)

def emit (sink : FilteredSink κ) (line : List UInt8) : Except TransferError Unit × FilteredSink κ :=
  if sink.keeps.all fun keeps => keeps (lineText line) then
    let (result, inner) := ByteSink.writeAll sink.inner line
    (result, { sink with inner })
  else (.ok (), sink)

/-- Passes on the lines that the data ends, and holds back the rest. A line that could not be passed
on is gone. -/
def writeLines (sink : FilteredSink κ) (data : List UInt8) :
    Except TransferError Unit × FilteredSink κ :=
  let begun := sink.pending ++ data.takeWhile (· ≠ newline)
  match _h : data.dropWhile (· ≠ newline) with
  | [] => (.ok (), { sink with pending := begun })
  | last :: rest =>
    match { sink with pending := [] }.emit (begun ++ [last]) with
    | (.error e, sink) => (.error e, sink)
    | (.ok (), sink) => writeLines sink rest
termination_by data.length
decreasing_by
  have := (List.dropWhile_suffix (fun b : UInt8 => decide (b ≠ newline)) (l := data)).length_le
  rw [_h] at this
  exact this

/-- Takes data; with a test all of it counts as taken. -/
def write (sink : FilteredSink κ) (data : List UInt8) : Except TransferError Nat × FilteredSink κ :=
  match sink.keeps with
  | none =>
    let (result, inner) := ByteSink.write sink.inner data
    (result, { sink with inner })
  | some _ =>
    let (result, sink) := sink.writeLines data
    (result.map fun () => data.length, sink)

/-- Passes on what was held back, as a line without an end. -/
def flush (sink : FilteredSink κ) : Except TransferError Unit × FilteredSink κ :=
  let (result, sink) := if sink.pending.isEmpty then (.ok (), sink)
    else { sink with pending := [] }.emit sink.pending
  match result with
  | .error e => (.error e, sink)
  | .ok () =>
    let (result, inner) := ByteSink.flush sink.inner
    (result, { sink with inner })

instance : ByteSink (FilteredSink κ) where
  write := write
  flush := flush

end FilteredSink

end RunLog
