import RunLog.Stream.Copy

namespace RunLog.ByteStream

variable {σ : Type} [PageSource σ]

/-- Reads until so many bytes came, or all of them where no number is given; until the end of the
log or an error, which is part of the answer. -/
def collect (s : ByteStream σ) (count : Option Nat) :
    List UInt8 × Option TransferError × ByteStream σ :=
  if count = some 0 then ([], none, s)
  else
    let step := s.read (count.getD chunkSize)
    match _h : step.1 with
    | .error e => ([], some e, step.2)
    | .ok [] => ([], none, step.2)
    | .ok (byte :: bytes) =>
      let (more, rest) := collect step.2 (count.map (· - (bytes.length + 1)))
      (byte :: bytes ++ more, rest)
termination_by s.remaining
decreasing_by exact remaining_read_lt _h

end RunLog.ByteStream
