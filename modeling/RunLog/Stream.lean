import RunLog.Cursors.Cache
import RunLog.Sequence

/-!
The bytes of a log: every line in UTF-8 with a newline behind it, one line in memory at a time.
A stream can jump to an offset at which an earlier stream over the same log was closed.
-/

namespace RunLog

namespace LineSequence

variable {σ : Type}

theorem hasNext_of_buffer_ne_nil [PageSupply σ] {seq : LineSequence σ} (h : seq.buffer ≠ []) :
    seq.hasNext = (.ok true, seq) := by
  unfold hasNext
  simp [h]

variable [PageSource σ]

/-- What a sequence may still fetch; nothing once it has ended. -/
def lookahead (seq : LineSequence σ) : Nat :=
  if seq.state = .opened then PageSource.fetchesLeft seq.source + 1 else 0

theorem lookahead_hasNext_le (seq : LineSequence σ) : seq.hasNext.2.lookahead ≤ seq.lookahead := by
  fun_induction hasNext seq with
  | case4 seq hb hs answer page h ih =>
    have hlt : PageSource.fetchesLeft answer.2 < PageSource.fetchesLeft seq.source :=
      PageSource.fetchesLeft_lt seq.source page h
    simp only [lookahead, hs, if_true] at ih ⊢
    omega
  | _ => simp_all [lookahead]

/-- A line that was not at hand costs a part of what may still be fetched. -/
theorem lookahead_hasNext_lt {seq : LineSequence σ} (hb : seq.buffer = [])
    (ht : seq.hasNext.1 = .ok true) : seq.hasNext.2.lookahead < seq.lookahead := by
  revert hb ht
  fun_induction hasNext seq with
  | case4 seq hb hs answer page h ih =>
    intro _ _
    have hle := lookahead_hasNext_le
      { seq with source := answer.2, buffer := page.lines, highWater := raised seq.highWater page }
    have hlt : PageSource.fetchesLeft answer.2 < PageSource.fetchesLeft seq.source :=
      PageSource.fetchesLeft_lt seq.source page h
    simp only [lookahead, hs, if_true] at hle ⊢
    omega
  | _ => simp_all [lookahead]

end LineSequence

/-- A log as a sequence of bytes. -/
structure ByteStream (σ : Type) where
  lines : LineSequence σ
  /-- The bytes of the current line that are still to be delivered. -/
  rest : List UInt8 := []
  /-- How many bytes of the current line have been delivered or passed over. -/
  position : Nat := 0
  /-- The offset of the next byte; it counts modulo `2 ^ 64`. -/
  bytesRead : UInt64 := 0
  /-- The id of the current line. -/
  currentId : Option LineId := none
  /-- The id of the last line delivered to its end. -/
  lastLineId : Option LineId := none
  /-- Bytes of the next line to pass over, because an earlier stream delivered them. -/
  discard : Nat := 0

namespace ByteStream

variable {σ : Type}

def ofLines (lines : LineSequence σ) : ByteStream σ := { lines }

def linePending (s : ByteStream σ) : Bool := !s.rest.isEmpty

/-- Delivers up to `n` bytes of the current line. -/
def deliver (s : ByteStream σ) (n : Nat) : List UInt8 × ByteStream σ :=
  let data := s.rest.take n
  let rest := s.rest.drop n
  (data, { s with
    rest
    position := s.position + data.length
    bytesRead := s.bytesRead + UInt64.ofNat data.length
    -- The line counts as read once its last byte went.
    lastLineId := if rest.isEmpty then s.currentId else s.lastLineId })

variable [PageSupply σ]

/-- Makes the next line the current one and tells whether there was one. -/
def fillLine (s : ByteStream σ) : Except RetrievalError Bool × ByteStream σ :=
  match s.lines.nextLine with
  | (.error e, lines) => (.error e, { s with lines })
  | (.ok none, lines) => (.ok false, { s with lines, rest := [], position := 0, discard := 0 })
  | (.ok (some line), lines) =>
    -- A stream that was resumed passes over what an earlier one delivered of this line.
    (.ok true, { s with
      lines
      rest := line.bytes.drop s.discard
      position := min s.discard line.bytes.length
      discard := 0
      currentId := some line.id })

/-- Reads up to `n` bytes, all of them from one line; no bytes mean the end of the log. -/
def read (s : ByteStream σ) (n : Nat) : Except TransferError (List UInt8) × ByteStream σ :=
  if s.lines.isClosed then (.error (.retrieval .closed), s)
  else if n = 0 then (.ok [], s)
  else if s.linePending then
    let (data, s) := s.deliver n
    (.ok data, s)
  else match s.fillLine with
    | (.error e, s) => (.error (.retrieval e), s)
    | (.ok false, s) => (.ok [], s)
    | (.ok true, s) =>
      let (data, s) := s.deliver n
      (.ok data, s)

/-- The sum of two offsets, or the largest offset if there is none so large. -/
def addOffset (a b : UInt64) : UInt64 :=
  if a.toNat + b.toNat < 18446744073709551616 then a + b else 18446744073709551615

def jump (s : ByteStream σ) (target : UInt64) (point : ResumePoint) : ByteStream σ where
  lines := match point.after with
    | some id => s.lines.skipTo id
    | none => s.lines
  rest := []
  position := 0
  bytesRead := target
  currentId := point.after
  lastLineId := point.after
  discard := point.intoNext.toNat

/-- Skips `n` bytes if the offset behind them was recorded, and otherwise nothing. -/
def skip {μ : Type} [OffsetMapper μ] (s : ByteStream σ) (cursors : μ) (n : UInt64) :
    Except TransferError UInt64 × ByteStream σ :=
  if s.lines.isClosed then (.error (.retrieval .closed), s)
  else
    let target := addOffset s.bytesRead n
    -- The caller is told `n` in both cases.
    match OffsetMapper.resumePoint? cursors target with
    | some point => (.ok n, s.jump target point)
    | none => (.ok n, s)

/-- Can a read deliver a byte now? Looks ahead if the current line has none left. -/
def available (s : ByteStream σ) : Except TransferError Bool × ByteStream σ :=
  if s.lines.isClosed then (.ok false, s)
  else if s.linePending then (.ok true, s)
  else match s.lines.hasNext with
    | (.error e, lines) => (.error (.retrieval e), { s with lines })
    | (.ok more, lines) => (.ok more, { s with lines })

/-- The place of the next byte, unless nothing of the log was delivered. -/
def resumePoint? (s : ByteStream σ) : Option ResumePoint :=
  -- Before a line is begun, what is to be passed over of it was delivered by an earlier stream.
  let intoNext := if s.linePending then s.position else s.discard
  if s.lastLineId.isSome || 0 < intoNext then some ⟨s.lastLineId, UInt64.ofNat intoNext⟩ else none

/-- Records where the stream stopped and releases the backend; closing again changes nothing. -/
def close {μ : Type} [OffsetMapper μ] (s : ByteStream σ) (cursors : μ) : ByteStream σ × μ :=
  if s.lines.isClosed then (s, cursors)
  else
    let cursors := match s.resumePoint? with
      | some point => OffsetMapper.record cursors s.bytesRead point
      | none => cursors
    ({ s with lines := s.lines.close, rest := [], position := 0, discard := 0 }, cursors)

end ByteStream

end RunLog
