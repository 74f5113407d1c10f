import RunLog.Sink

namespace RunLog

/-- A sink that takes only so many bytes at a time and in all, and whose flushes may fail. -/
structure LimitedSink where
  /-- The number of bytes it takes in all, if there is a bound. -/
  capacity : Option Nat := none
  /-- The number of bytes it takes at a time, if there is a bound. -/
  chunk : Option Nat := none
  failFlush : Bool := false
  /-- The number of bytes taken so far. -/
  taken : Nat := 0
  /-- What was written at each time, the latest first. -/
  buffer : ByteBuffer := {}
  /-- The number of flushes so far. -/
  flushes : Nat := 0

namespace LimitedSink

def accepted (sink : LimitedSink) (count : Nat) : Nat :=
  let withinChunk := min count (sink.chunk.getD count)
  min withinChunk ((sink.capacity.map (· - sink.taken)).getD withinChunk)

instance : ByteSink LimitedSink where
  write sink data :=
    let n := sink.accepted data.length
    (.ok n, { sink with buffer := sink.buffer.append (data.take n), taken := sink.taken + n })
  flush sink :=
    let sink := { sink with flushes := sink.flushes + 1 }
    if sink.failFlush then (.error (.failure .storageFull "no space left"), sink)
    else (.ok (), sink)

end LimitedSink

end RunLog
