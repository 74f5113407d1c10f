import RunLog.Proofs.Calls
import RunLog.Proofs.Endings

namespace RunLog

/-- A source that notes what is asked of it, the oldest first. -/
structure NotedSource (σ : Type) where
  inner : σ
  asked : List SourceCall := []

namespace NotedSource

variable {σ : Type} [PageSupply σ]

instance : PageSupply (NotedSource σ) where
  fetchNext s :=
    let answer := PageSupply.fetchNext s.inner
    (answer.1, ⟨answer.2, s.asked ++ [.fetchNext]⟩)
  seekPast s id := ⟨PageSupply.seekPast s.inner id, s.asked ++ [.seekPast id]⟩
  close s := ⟨PageSupply.close s.inner, s.asked ++ [.close]⟩
  blanksLeft s := PageSupply.blanksLeft s.inner
  blanksLeft_lt s page h hblank := PageSupply.blanksLeft_lt s.inner page h hblank

/-- Looking ahead asks for pages and for nothing else. -/
theorem asked_hasNext (seq : LineSequence (NotedSource σ)) :
    ∃ k, seq.hasNext.2.source.asked = seq.source.asked ++ List.replicate k .fetchNext := by
  fun_induction LineSequence.hasNext seq with
  | case1 | case2 | case3 | case9 => exact ⟨0, (List.append_nil _).symm⟩
  | case4 seq hb hs answer page hpage ih =>
    obtain ⟨k, hk⟩ := ih
    refine ⟨k + 1, hk.trans ?_⟩
    rw [List.replicate_succ]
    exact List.append_assoc seq.source.asked [.fetchNext] _
  | case5 | case6 | case7 | case8 => exact ⟨1, rfl⟩

end NotedSource

/-- Offsets that note what is recorded among them, the oldest first. -/
structure NotedOffsets (μ : Type) where
  inner : μ
  recorded : List (UInt64 × ResumePoint) := []

instance {μ : Type} [OffsetMapper μ] : OffsetMapper (NotedOffsets μ) where
  resumePoint? cursors offset := OffsetMapper.resumePoint? cursors.inner offset
  record cursors offset point :=
    ⟨OffsetMapper.record cursors.inner offset point, cursors.recorded ++ [(offset, point)]⟩

/-- What happens in the life of a reader. -/
inductive ReaderEvent (μ : Type) where
  | read (n : Nat)
  | available
  | skip (n : UInt64)
  | close
  /-- Other readers change what is recorded. -/
  | others (cursors : μ)

def ReaderEvent.isClose {μ : Type} : ReaderEvent μ → Bool
  | .close => true
  | _ => false

namespace ByteStream

variable {σ : Type} [PageSupply σ]

/-- A stream that answers nothing any more. A skip gives the same through all offsets of all kinds, so
nothing is looked up, and closing again records nothing among them. -/
structure Finished (s : ByteStream σ) : Prop where
  read : ∀ n, s.read n = (.error (.retrieval .closed), s)
  available : s.available = (.ok false, s)
  skip : ∀ {ν : Type} [OffsetMapper ν] (cursors : ν) (n : UInt64),
    s.skip cursors n = (.error (.retrieval .closed), s)
  close : ∀ {ν : Type} [OffsetMapper ν] (cursors : ν), s.close cursors = (s, cursors)

theorem finished_of_closed {s : ByteStream σ} (hc : s.lines.isClosed = true) : s.Finished where
  read n := read_of_closed hc n
  available := if_pos hc
  skip _ _ := if_pos hc
  close _ := if_pos hc

end ByteStream

/-- A reader over a source and offsets of which all is noted. -/
structure Reader (σ μ : Type) where
  stream : ByteStream (NotedSource σ)
  cursors : NotedOffsets μ

namespace Reader

variable {σ μ : Type}

def start (source : σ) (marker : Bool) (cursors : μ) : Reader σ μ :=
  ⟨.ofLines { source := ⟨source, []⟩, marker }, ⟨cursors, []⟩⟩

/-- What was asked of the source. -/
def asked (reader : Reader σ μ) : List SourceCall := reader.stream.lines.source.asked

/-- What was recorded among the offsets. -/
def recorded (reader : Reader σ μ) : List (UInt64 × ResumePoint) := reader.cursors.recorded

/-- Nothing was closed and nothing recorded. -/
structure Live (reader : Reader σ μ) : Prop where
  isOpen : reader.stream.lines.isClosed = false
  asked : .close ∉ reader.asked
  recorded : reader.recorded = []

theorem live_start (source : σ) (marker : Bool) (cursors : μ) :
    (start source marker cursors).Live := ⟨rfl, nofun, rfl⟩

variable [PageSupply σ] [OffsetMapper μ]

/-- The reader behind an event. -/
def after (reader : Reader σ μ) : ReaderEvent μ → Reader σ μ
  | .read n => { reader with stream := (reader.stream.read n).2 }
  | .available => { reader with stream := reader.stream.available.2 }
  | .skip n => { reader with stream := (reader.stream.skip reader.cursors n).2 }
  | .close =>
    let (stream, cursors) := reader.stream.close reader.cursors
    ⟨stream, cursors⟩
  | .others cursors => { reader with cursors := { reader.cursors with inner := cursors } }

def afterAll (reader : Reader σ μ) (events : List (ReaderEvent μ)) : Reader σ μ :=
  events.foldl after reader

/-- Dropping a reader closes it, if that was not done. -/
def dropped (reader : Reader σ μ) : Reader σ μ := reader.after .close

variable {reader : Reader σ μ}

/-- A call other than a close asks for pages, or seeks an id, or asks nothing. -/
theorem asked_after (reader : Reader σ μ) {event : ReaderEvent μ} (h : event.isClose = false) :
    ∃ more, (reader.after event).asked = reader.asked ++ more ∧ .close ∉ more := by
  -- What a call may come to: nothing, looking ahead, or a seek.
  have hnothing : ∃ more, reader.asked = reader.asked ++ more ∧ SourceCall.close ∉ more :=
    ⟨[], (List.append_nil _).symm, nofun⟩
  have hahead : ∃ more, reader.stream.lines.hasNext.2.source.asked = reader.asked ++ more ∧
      SourceCall.close ∉ more := by
    obtain ⟨k, hk⟩ := NotedSource.asked_hasNext reader.stream.lines
    exact ⟨_, hk, fun hmem => nomatch List.eq_of_mem_replicate hmem⟩
  cases event with
  | read n =>
    change ∃ more, (reader.stream.read n).2.lines.source.asked = _ ∧ _
    rcases reader.stream.lines_read n with hl | hl
    · rw [hl]
      exact hnothing
    · rw [hl, LineSequence.nextLine_source]
      exact hahead
  | available =>
    change ∃ more, reader.stream.available.2.lines.source.asked = _ ∧ _
    rcases reader.stream.lines_available with hl | hl
    · rw [hl]
      exact hnothing
    · rw [hl]
      exact hahead
  | skip n =>
    change ∃ more, (reader.stream.skip reader.cursors n).2.lines.source.asked = _ ∧ _
    rcases reader.stream.source_skip reader.cursors n with hl | ⟨id, hl⟩
    · rw [hl]
      exact hnothing
    · rw [hl]
      exact ⟨[.seekPast id], rfl, by simp⟩
  | close => exact nomatch h
  | others cursors => exact hnothing

theorem isClosed_after (reader : Reader σ μ) {event : ReaderEvent μ} (h : event.isClose = false) :
    (reader.after event).stream.lines.isClosed = reader.stream.lines.isClosed := by
  cases event with
  | read n => exact reader.stream.isClosed_read n
  | available => exact reader.stream.isClosed_available
  | skip n => exact reader.stream.isClosed_skip reader.cursors n
  | close => exact nomatch h
  | others cursors => rfl

theorem recorded_after (reader : Reader σ μ) {event : ReaderEvent μ} (h : event.isClose = false) :
    (reader.after event).recorded = reader.recorded := by
  cases event with
  | close => exact nomatch h
  | _ => rfl

theorem Live.after (h : reader.Live) {event : ReaderEvent μ} (hevent : event.isClose = false) :
    (reader.after event).Live := by
  obtain ⟨more, hmore, hnone⟩ := reader.asked_after hevent
  refine ⟨(reader.isClosed_after hevent).trans h.isOpen, ?_, ?_⟩
  · rw [hmore, List.mem_append]
    exact fun hmem => hmem.elim h.asked hnone
  · rw [reader.recorded_after hevent, h.recorded]

theorem Live.afterAll (h : reader.Live) {events : List (ReaderEvent μ)}
    (hevents : ∀ event ∈ events, event.isClose = false) : (reader.afterAll events).Live := by
  induction events generalizing reader with
  | nil => exact h
  | cons event events ih =>
    obtain ⟨hevent, hmore⟩ := List.forall_mem_cons.mp hevents
    exact ih (h.after hevent) hmore

/-- The first close closes the source, and records the place of the next byte if there is one. -/
theorem Live.close (h : reader.Live) :
    (reader.after .close).asked = reader.asked ++ [.close] ∧
      (reader.after .close).recorded =
        reader.stream.resumePoint?.toList.map (reader.stream.bytesRead, ·) ∧
      (reader.after .close).stream.bytesRead = reader.stream.bytesRead ∧
      (reader.after .close).stream.lastLineId = reader.stream.lastLineId := by
  change (reader.stream.close reader.cursors).1.lines.source.asked = _ ∧
    (reader.stream.close reader.cursors).2.recorded = _ ∧
    (reader.stream.close reader.cursors).1.bytesRead = _ ∧
    (reader.stream.close reader.cursors).1.lastLineId = _
  rw [ByteStream.close_of_open h.isOpen]
  refine ⟨?_, ?_, rfl, rfl⟩
  · change reader.stream.lines.close.source.asked = _
    rw [LineSequence.close, if_neg (by simp [h.isOpen])]
    rfl
  · have hnone : reader.cursors.recorded = [] := h.recorded
    cases reader.stream.resumePoint? with
    | none => exact hnone
    | some point => exact congrArg (· ++ [(reader.stream.bytesRead, point)]) hnone

/-- After a close only other readers change anything. -/
theorem after_of_finished (h : reader.stream.Finished) (event : ReaderEvent μ) :
    (reader.after event).stream = reader.stream ∧
      (reader.after event).recorded = reader.recorded := by
  cases event with
  | read n => exact ⟨congrArg Prod.snd (h.read n), rfl⟩
  | available => exact ⟨congrArg Prod.snd h.available, rfl⟩
  | skip n => exact ⟨congrArg Prod.snd (h.skip reader.cursors n), rfl⟩
  | close =>
    have hsame := h.close reader.cursors
    exact ⟨congrArg Prod.fst hsame, congrArg (NotedOffsets.recorded ∘ Prod.snd) hsame⟩
  | others cursors => exact ⟨rfl, rfl⟩

theorem afterAll_of_finished (h : reader.stream.Finished) (events : List (ReaderEvent μ)) :
    (reader.afterAll events).stream = reader.stream ∧
      (reader.afterAll events).recorded = reader.recorded := by
  induction events generalizing reader with
  | nil => exact ⟨rfl, rfl⟩
  | cons event events ih =>
    obtain ⟨hstream, hrecorded⟩ := after_of_finished h event
    obtain ⟨hstreams, hall⟩ := ih (hstream.symm ▸ h)
    exact ⟨hstreams.trans hstream, hall.trans hrecorded⟩

theorem finished_close (reader : Reader σ μ) : (reader.after .close).stream.Finished :=
  ByteStream.finished_of_closed (reader.stream.isClosed_close reader.cursors)

/-- Dropping a reader does what its first close did, or it is the first close. -/
theorem dropped_afterAll (reader : Reader σ μ) (events : List (ReaderEvent μ)) :
    let closed := (reader.afterAll (events.takeWhile fun event => !event.isClose)).after .close
    (reader.afterAll events).dropped.stream = closed.stream ∧
      (reader.afterAll events).dropped.recorded = closed.recorded := by
  induction events generalizing reader with
  | nil => exact ⟨rfl, rfl⟩
  | cons event events ih =>
    cases event with
    | close =>
      -- The drop is one of the events behind the first close.
      have hall := afterAll_of_finished reader.finished_close (events ++ [.close])
      rw [afterAll, List.foldl_append] at hall
      exact hall
    | _ => exact ih (reader.after _)

/-- The life of a reader. Up to the first close, or until it is dropped if there was none, the source is
not closed and nothing is recorded. The close closes the source and records the place of the next byte,
if there is one, under the number of bytes read. From then on the stream stays as it is, whatever
follows: nothing is asked of the source or recorded, every call but `available` fails, and the bytes
read and the last line stay what they were. -/
theorem afterAll_lifeCycle (source : σ) (marker : Bool) (cursors : μ)
    (events : List (ReaderEvent μ)) :
    let reader := start source marker cursors
    let before := reader.afterAll (events.takeWhile fun event => !event.isClose)
    let closed := before.after .close
    let dropped := (reader.afterAll events).dropped
    (.close ∉ before.asked ∧ before.recorded = []) ∧
    (closed.asked = before.asked ++ [.close] ∧
      closed.recorded = before.stream.resumePoint?.toList.map (before.stream.bytesRead, ·) ∧
      closed.stream.bytesRead = before.stream.bytesRead ∧
      closed.stream.lastLineId = before.stream.lastLineId) ∧
    closed.stream.Finished ∧
    (∀ later, (closed.afterAll later).stream = closed.stream ∧
      (closed.afterAll later).recorded = closed.recorded) ∧
    (dropped.stream = closed.stream ∧ dropped.recorded = closed.recorded) ∧
    dropped.asked.count .close = 1 := by
  intro reader before closed dropped
  have hbefore : before.Live := by
    refine (live_start source marker cursors).afterAll fun event hmem => ?_
    have hnot := List.all_eq_true.mp List.all_takeWhile event hmem
    simpa using hnot
  have hclose := hbefore.close
  have hdrop := dropped_afterAll reader events
  refine ⟨⟨hbefore.asked, hbefore.recorded⟩, hclose, before.finished_close,
    afterAll_of_finished before.finished_close, hdrop, ?_⟩
  have hasked : dropped.asked = before.asked ++ [.close] :=
    (congrArg (fun stream => stream.lines.source.asked) hdrop.1).trans hclose.1
  rw [hasked, List.count_append, List.count_eq_zero.mpr hbefore.asked, List.count_singleton_self]

end Reader

end RunLog
