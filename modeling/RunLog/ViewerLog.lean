import RunLog.Stream.Copy

namespace RunLog

/-- A log as a viewer gets it: its bytes, and a length to show while the true one is unknown. -/
structure ViewerLog (σ : Type) where
  stream : ByteStream σ
  /-- The length to show, in bytes. -/
  advisoryLength : UInt64

namespace ViewerLog

/-- The length shown by default, in units of 1024 bytes. -/
def defaultTailKb : UInt64 := 150

/-- A length in bytes, given in units of 1024 bytes; the largest length if there is none so
large. -/
def tailBytes (kb : UInt64) : UInt64 :=
  if kb.toNat * 1024 < 18446744073709551616 then kb * 1024 else 18446744073709551615

variable {σ : Type}

def ofStream (stream : ByteStream σ) (tailKb : UInt64 := defaultTailKb) : ViewerLog σ :=
  ⟨stream, tailBytes tailKb⟩

variable [PageSource σ] {μ : Type} [OffsetMapper μ] {κ : Type} [ByteSink κ]

/-- Copies what follows the given offset into a sink and answers the offset reached. -/
def writeTo (log : ViewerLog σ) (cursors : μ) (offset : UInt64) (sink : κ) :
    Except TransferError UInt64 × ViewerLog σ × κ :=
  let (skipped, stream) :=
    if 0 < offset then log.stream.skip cursors offset else (.ok 0, log.stream)
  match skipped with
  | .error e => (.error e, { log with stream }, sink)
  | .ok _ => match stream.copy sink with
    | (.error e, stream, sink) => (.error e, { log with stream }, sink)
    | (.ok (), stream, sink) => match ByteSink.flush sink with
      | (.error e, sink) => (.error e, { log with stream }, sink)
      | (.ok (), sink) => (.ok stream.bytesRead, { log with stream }, sink)

end ViewerLog

end RunLog
