import RunLog.Source.Basic

/-!
The lines of a source one by one, fetched only when they are asked for. Looking ahead ends because it
stops at the first page with lines, and every page without lines uses up a part of the source's bound.
-/

namespace RunLog

/-- Whether a sequence may still fetch. -/
inductive SequenceState where
  | opened
  | exhausted
  | failed
  | closed
deriving DecidableEq, Repr

/-- The lines of a source, as far as they have been fetched and not yet taken. -/
structure LineSequence (σ : Type) where
  source : σ
  buffer : List LogLine := []
  state : SequenceState := .opened
  /-- Whether a line of its own marks a log that was cut short. -/
  marker : Bool := false
  /-- The highest id among the fetched lines. -/
  highWater : Option LineId := none

namespace LineSequence

variable {σ : Type}

def markerText : String := "…"

/-- The line that marks a log cut short. -/
def markerLine (seq : LineSequence σ) : LogLine := ⟨seq.highWater.getD .least, markerText⟩

/-- Closed sequences yield nothing, whatever they held. -/
def isClosed (seq : LineSequence σ) : Bool := seq.state = .closed

/-- The highest id fetched, once the given lines are fetched too. -/
def raised (highWater : Option LineId) (page : Page) : Option LineId :=
  match page.maxId with
  | none => highWater
  | some id => some <| match highWater with
    | none => id
    | some high => max high id

variable [PageSupply σ]

/-- How often looking ahead may still fetch: not once a line is at hand. -/
def turnsLeft (seq : LineSequence σ) : Nat :=
  if seq.buffer.isEmpty then PageSupply.blanksLeft seq.source + 1 else 0

theorem turnsLeft_lt {seq next : LineSequence σ} {page : Page} (hb : seq.buffer.isEmpty = true)
    (h : (PageSupply.fetchNext seq.source).1 = .ok (.page page))
    (hbuffer : next.buffer = page.lines) (hsource : next.source = (PageSupply.fetchNext seq.source).2) :
    next.turnsLeft < seq.turnsLeft := by
  rw [turnsLeft, turnsLeft, if_pos hb, hbuffer, hsource]
  split
  · next hblank =>
    have := PageSupply.blanksLeft_lt seq.source page h (List.isEmpty_iff.mp hblank)
    omega
  · exact Nat.succ_pos _

/-- Is there another line? Fetches pages until one has lines or the source ends. -/
def hasNext (seq : LineSequence σ) : Except RetrievalError Bool × LineSequence σ :=
  if seq.buffer.isEmpty then
    match seq.state with
    | .closed => (.error .closed, seq)
    | .exhausted | .failed => (.ok false, seq)
    | .opened =>
      let answer := PageSupply.fetchNext seq.source
      match _h : answer.1 with
      | .ok (.page page) =>
        -- The page may be empty, so look again.
        hasNext { seq with
          source := answer.2, buffer := page.lines, highWater := raised seq.highWater page }
      | .ok .exhausted => (.ok false, { seq with source := answer.2, state := .exhausted })
      | .ok (.circuitBroken _) =>
        -- Whoever reads on gets the mark like any other line, and then the end.
        let ended := { seq with source := answer.2, state := .exhausted }
        if seq.marker then (.ok true, { ended with buffer := [seq.markerLine] })
        else (.ok false, ended)
      | .error e => (.error e, { seq with source := answer.2, state := .failed })
  else (.ok true, seq)
termination_by seq.turnsLeft
decreasing_by exact turnsLeft_lt ‹_› _h rfl rfl

/-- Takes the next line, or none at the end. -/
def nextLine (seq : LineSequence σ) : Except RetrievalError (Option LogLine) × LineSequence σ :=
  match seq.hasNext with
  | (.error e, seq) => (.error e, seq)
  | (.ok false, seq) => (.ok none, seq)
  | (.ok true, seq) => (.ok seq.buffer.head?, { seq with buffer := seq.buffer.tail })

/-- Takes the next item of the sequence: a line or an error, and nothing after its end. -/
def nextItem (seq : LineSequence σ) :
    Option (Except RetrievalError LogLine) × LineSequence σ :=
  if seq.isClosed then (none, seq)
  else match seq.nextLine with
    | (.error e, seq) => (some (.error e), seq)
    | (.ok none, seq) => (none, seq)
    | (.ok (some line), seq) => (some (.ok line), seq)

/-- Skips the lines up to the given id: those in the buffer are dropped, the others not fetched. -/
def skipTo (seq : LineSequence σ) (id : LineId) : LineSequence σ :=
  { seq with
    buffer := seq.buffer.dropWhile fun line => line.id ≤ id
    source := PageSupply.seekPast seq.source id }

/-- Releases the source; closing again changes nothing. -/
def close (seq : LineSequence σ) : LineSequence σ :=
  if seq.isClosed then seq
  else { seq with state := .closed, buffer := [], source := PageSupply.close seq.source }

end LineSequence

end RunLog
