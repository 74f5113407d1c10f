import RunLog.Error

namespace RunLog

/-- A place to which bytes can be written. -/
class ByteSink (κ : Type) where
  /-- Offers bytes and tells how many of them, from the front, were taken. -/
  write : κ → List UInt8 → Except TransferError Nat × κ
  /-- Passes on what may still be held back. -/
  flush : κ → Except TransferError Unit × κ

namespace ByteSink

variable {κ : Type} [ByteSink κ]

def writeZero : TransferError := .failure .writeZero "failed to write whole buffer"

/-- Offers bytes until all of them are taken; a writer that takes none has failed. A writer stands here
together with what asks it again when it was only interrupted, so that is none of its failures. -/
def writeAll (sink : κ) (data : List UInt8) : Except TransferError Unit × κ :=
  match data with
  | [] => (.ok (), sink)
  | byte :: bytes =>
    match write sink (byte :: bytes) with
    | (.error e, sink) => (.error e, sink)
    | (.ok 0, sink) => (.error writeZero, sink)
    | (.ok (n + 1), sink) => writeAll sink (bytes.drop n)
termination_by data.length
decreasing_by
  simp only [List.length_drop, List.length_cons]
  omega

end ByteSink

/-- A sink that keeps all it gets. -/
structure ByteBuffer where
  /-- What was written at each time, the latest first. -/
  chunks : List (List UInt8) := []

namespace ByteBuffer

def bytes (buffer : ByteBuffer) : List UInt8 := buffer.chunks.reverse.flatten

def append (buffer : ByteBuffer) (data : List UInt8) : ByteBuffer := ⟨data :: buffer.chunks⟩

instance : ByteSink ByteBuffer where
  write buffer data := (.ok data.length, buffer.append data)
  flush buffer := (.ok (), buffer)

end ByteBuffer

end RunLog
