import RunLog.Proofs.Items
import RunLog.Proofs.Retrying
import RunLog.Source.Scripted

/-! The bytes of a stream over any source of pages, in whatever portions they are read. `Attends` says
that a stream stands at a place of a log and has the rest of it to come, and behind it perhaps an error.
Main statement: all ways of reading deliver first parts of one sequence of bytes, the stream counts them
and knows the last line that went out whole, and the error of the source comes once, behind all bytes. -/

namespace RunLog

/-- What a call of a reader is answered. -/
inductive ReaderAnswer where
  | data (answer : Except TransferError (List UInt8))
  | more (answer : Except TransferError Bool)

namespace ReaderAnswer

def bytes : ReaderAnswer → List UInt8
  | .data (.ok bytes) => bytes
  | _ => []

def error? : ReaderAnswer → Option TransferError
  | .data (.error e) => some e
  | .more (.error e) => some e
  | _ => none

end ReaderAnswer

def bytesOf (answers : List ReaderAnswer) : List UInt8 := answers.flatMap ReaderAnswer.bytes

def refusalsOf (answers : List ReaderAnswer) : List TransferError :=
  answers.filterMap ReaderAnswer.error?

namespace ByteStream

variable {σ : Type}

section Answers

variable [PageSupply σ]

def answer (s : ByteStream σ) : ReaderCall → ReaderAnswer
  | .read n => .data (s.read n).1
  | .available => .more s.available.1

/-- Makes calls one after another, whatever they are answered. -/
def answerAll (s : ByteStream σ) : List ReaderCall → List ReaderAnswer × ByteStream σ
  | [] => ([], s)
  | call :: calls =>
    let others := answerAll (s.after call) calls
    (s.answer call :: others.1, others.2)

theorem bytesOf_answerAll_cons (s : ByteStream σ) (call : ReaderCall) (calls : List ReaderCall) :
    bytesOf (s.answerAll (call :: calls)).1 =
      (s.answer call).bytes ++ bytesOf ((s.after call).answerAll calls).1 := rfl

theorem refusalsOf_answerAll_cons (s : ByteStream σ) (call : ReaderCall) (calls : List ReaderCall) :
    refusalsOf (s.answerAll (call :: calls)).1 =
      (s.answer call).error?.toList ++ refusalsOf ((s.after call).answerAll calls).1 := by
  change List.filterMap _ (_ :: _) = _
  rw [List.filterMap_cons]
  cases (s.answer call).error? <;> rfl

end Answers

variable [PageSource σ] {log : List LogLine} {s : ByteStream σ} {p : Place log}
  {errors : List RetrievalError} {n : Nat}

/-- A stream that knows its place in a log, and has the lines from there on to come and then the given
errors. -/
structure Attends (s : ByteStream σ) (p : Place log) (errors : List RetrievalError) : Prop where
  isOpen : s.lines.isClosed = false
  marked : s.MarkedAt p
  coming : s.rest = [] ∧ s.lines.items = ⟨p.ahead, errors⟩ ∨
    ∃ line more, s.Begun p line more ∧ s.lines.items = ⟨more, errors⟩

theorem Attends.idle (h : s.Attends p errors) (hend : p.ahead = []) :
    s.rest = [] ∧ s.lines.items = ⟨[], errors⟩ := by
  rcases h.coming with ⟨hrest, hitems⟩ | ⟨line, more, hbegun, -⟩
  · exact ⟨hrest, hend ▸ hitems⟩
  · exact nomatch hbegun.ahead.symm.trans hend

/-- What is delivered of the current line moves the stream on along the log. -/
theorem Begun.attends {line : LogLine} {more : List LogLine} (h : s.Begun p line more)
    (ho : s.lines.isClosed = false) (hm : s.MarkedAt p) (hitems : s.lines.items = ⟨more, errors⟩)
    (hsize : (render log).length < UInt64.size) (n : Nat) :
    ∃ q : Place log, (s.deliver n).2.Attends q errors ∧
      q.offset = p.offset + (p.portion n).length := by
  obtain ⟨q, hmarked, hoffset, hcoming⟩ := h.deliver hm hsize n
  rw [h.deliver_eq n] at hoffset
  refine ⟨q, ⟨ho, hmarked, ?_⟩, hoffset⟩
  rcases hcoming with ⟨hrest, hahead⟩ | hbegun
  · left
    exact ⟨hrest, hahead ▸ hitems⟩
  · right
    exact ⟨line, more, hbegun, hitems⟩

/-- Before the end of the log a read delivers the portion at the place. -/
theorem Attends.read_of_ahead (h : s.Attends p errors) (hsize : (render log).length < UInt64.size)
    (hn : n ≠ 0) (hahead : p.ahead ≠ []) :
    (s.read n).1 = .ok (p.portion n) ∧ ∃ q : Place log, (s.read n).2.Attends q errors ∧
      q.offset = p.offset + (p.portion n).length := by
  rcases h.coming with ⟨hrest, hitems⟩ | ⟨line, more, hbegun, hitems⟩
  · -- The line at the place is taken from the sequence and begun.
    obtain ⟨line, more, hcons⟩ := List.exists_cons_of_ne_nil hahead
    obtain ⟨hline, hmore⟩ := LineSequence.items_nextLine h.isOpen
    rw [hitems, hcons] at hline hmore
    obtain ⟨hmarked, hbegun⟩ := h.marked.loaded hrest hcons s.lines.nextLine.2
    have hopen := s.lines.isClosed_nextLine.trans h.isOpen
    obtain ⟨q, hattends, hoffset⟩ := hbegun.attends hopen hmarked hmore hsize n
    rw [read_of_idle h.isOpen hn hrest, hline]
    exact ⟨congrArg Except.ok (hbegun.deliver_eq n), q, hattends, hoffset⟩
  · obtain ⟨q, hattends, hoffset⟩ := hbegun.attends h.isOpen h.marked hitems hsize n
    rw [read_of_pending h.isOpen hn hbegun.rest_ne_nil]
    exact ⟨congrArg Except.ok (hbegun.deliver_eq n), q, hattends, hoffset⟩

/-- The answer of a call at the end of a log: the first error that is left, or that all is over. -/
def atEnd {α : Type} (done : α) : List RetrievalError → Except TransferError α
  | [] => .ok done
  | e :: _ => .error (.retrieval e)

/-- At the end of the log a read reports the first error that is left, and none delivers a byte. -/
theorem Attends.read_of_end (h : s.Attends p errors) (hn : n ≠ 0) (hend : p.ahead = []) :
    (s.read n).1 = atEnd [] errors ∧ (s.read n).2.Attends p errors.tail := by
  obtain ⟨hrest, hitems⟩ := h.idle hend
  obtain ⟨hline, hmore⟩ := LineSequence.items_nextLine h.isOpen
  have hopen := s.lines.isClosed_nextLine.trans h.isOpen
  have hinto := Place.into_of_ahead_eq_nil hend
  rw [hitems] at hline hmore
  rw [read_of_idle h.isOpen hn hrest, hline]
  cases errors with
  | nil =>
    have hmarked := h.marked
    refine ⟨rfl, hopen, ⟨hmarked.bytesRead, hmarked.lastLineId, hinto.symm⟩, .inl ⟨rfl, ?_⟩⟩
    rw [hend]
    exact hmore
  | cons e errors =>
    have hmarked := h.marked
    refine ⟨rfl, hopen, ⟨hmarked.bytesRead, hmarked.lastLineId, hmarked.into⟩, .inl ⟨hrest, ?_⟩⟩
    rw [hend]
    exact hmore

/-- Where no line has been begun, a stream answers as what is to come of its sequence does. -/
theorem Attends.available_of_idle (h : s.Attends p errors) (hrest : s.rest = [])
    (hitems : s.lines.items = ⟨p.ahead, errors⟩) {more : Except RetrievalError Bool}
    {left : List RetrievalError}
    (hask : Items.ask ⟨p.ahead, errors⟩ .hasNext = (.more more, ⟨p.ahead, left⟩)) :
    s.available.1 = more.mapError .retrieval ∧ s.available.2.Attends p left := by
  have hnext := LineSequence.items_hasNext h.isOpen
  rw [hitems, hask] at hnext
  obtain ⟨hmore, hafter⟩ := Prod.mk.inj hnext
  have hopen := s.lines.isClosed_hasNext.trans h.isOpen
  have hmarked := h.marked
  rw [ByteStream.available_of_idle h.isOpen hrest, ← ItemAnswer.more.inj hmore]
  cases more with
  | error e =>
    exact ⟨rfl, hopen, ⟨hmarked.bytesRead, hmarked.lastLineId, hmarked.into⟩,
      .inl ⟨hrest, hafter.symm⟩⟩
  | ok more =>
    exact ⟨rfl, hopen, ⟨hmarked.bytesRead, hmarked.lastLineId, hmarked.into⟩,
      .inl ⟨hrest, hafter.symm⟩⟩

/-- Before the end of the log more is available, and asking for it changes nothing. -/
theorem Attends.available_of_ahead (h : s.Attends p errors) (hahead : p.ahead ≠ []) :
    s.available.1 = .ok true ∧ s.available.2.Attends p errors := by
  rcases h.coming with ⟨hrest, hitems⟩ | ⟨line, more, hbegun, -⟩
  · obtain ⟨line, more, hcons⟩ := List.exists_cons_of_ne_nil hahead
    have hask : Items.ask ⟨p.ahead, errors⟩ .hasNext = (.more (.ok true), ⟨p.ahead, errors⟩) := by
      rw [hcons]
      rfl
    exact h.available_of_idle hrest hitems hask
  · rw [available_of_pending h.isOpen hbegun.rest_ne_nil]
    exact ⟨rfl, h⟩

/-- At the end of the log nothing is available, and the first error that is left is reported. -/
theorem Attends.available_of_end (h : s.Attends p errors) (hend : p.ahead = []) :
    s.available.1 = atEnd false errors ∧ s.available.2.Attends p errors.tail := by
  obtain ⟨hrest, hitems⟩ := h.idle hend
  rw [← hend] at hitems
  cases errors with
  | nil =>
    have hask : Items.ask ⟨p.ahead, []⟩ .hasNext = (.more (.ok false), ⟨p.ahead, []⟩) := by
      rw [hend]
      rfl
    exact h.available_of_idle hrest hitems hask
  | cons e errors =>
    have hask : Items.ask ⟨p.ahead, e :: errors⟩ .hasNext = (.more (.error e), ⟨p.ahead, errors⟩) := by
      rw [hend]
      rfl
    exact h.available_of_idle hrest hitems hask

/-- A call moves a stream along the log by the bytes that it delivers, and takes an error off those to
come when it reports it, which happens at the end only. -/
theorem Attends.call (h : s.Attends p errors) (hsize : (render log).length < UInt64.size)
    (call : ReaderCall) :
    ∃ (q : Place log) (left : List RetrievalError), (s.after call).Attends q left ∧
      q.offset = p.offset + (s.answer call).bytes.length ∧
      (s.answer call).bytes <+: (render log).drop p.offset ∧
      (s.answer call).error?.toList ++ left.map .retrieval = errors.map .retrieval ∧
      (left ≠ errors → p.ahead = [] ∧ q = p) := by
  by_cases hahead : p.ahead = []
  · -- At the end there are errors at most.
    refine ⟨p, ?_⟩
    cases call with
    | read n =>
      by_cases hn : n = 0
      · rw [answer, after, hn, read_zero h.isOpen]
        exact ⟨errors, h, rfl, List.nil_prefix, rfl, fun hne => absurd rfl hne⟩
      · obtain ⟨hread, hafter⟩ := h.read_of_end hn hahead
        rw [answer, hread]
        cases errors with
        | nil => exact ⟨[], hafter, rfl, List.nil_prefix, rfl, fun _ => ⟨hahead, rfl⟩⟩
        | cons e errors => exact ⟨errors, hafter, rfl, List.nil_prefix, rfl, fun _ => ⟨hahead, rfl⟩⟩
    | available =>
      obtain ⟨hmore, hafter⟩ := h.available_of_end hahead
      rw [answer, hmore]
      cases errors with
      | nil => exact ⟨[], hafter, rfl, List.nil_prefix, rfl, fun _ => ⟨hahead, rfl⟩⟩
      | cons e errors => exact ⟨errors, hafter, rfl, List.nil_prefix, rfl, fun _ => ⟨hahead, rfl⟩⟩
  · cases call with
    | read n =>
      by_cases hn : n = 0
      · rw [answer, after, hn, read_zero h.isOpen]
        exact ⟨p, errors, h, rfl, List.nil_prefix, rfl, fun hne => absurd rfl hne⟩
      · obtain ⟨hread, q, hattends, hoffset⟩ := h.read_of_ahead hsize hn hahead
        rw [answer, hread]
        exact ⟨q, errors, hattends, hoffset, p.portion_prefix n, rfl, fun hne => absurd rfl hne⟩
    | available =>
      obtain ⟨hmore, hafter⟩ := h.available_of_ahead hahead
      rw [answer, hmore]
      exact ⟨p, errors, hafter, rfl, List.nil_prefix, rfl, fun hne => absurd rfl hne⟩

/-- Calls move a stream along the log by the bytes that they deliver, and what they report are the
first of its errors, behind all its bytes. -/
theorem Attends.answerAll (h : s.Attends p errors) (hsize : (render log).length < UInt64.size)
    (calls : List ReaderCall) :
    ∃ (q : Place log) (left : List RetrievalError), (s.answerAll calls).2.Attends q left ∧
      q.offset = p.offset + (bytesOf (s.answerAll calls).1).length ∧
      bytesOf (s.answerAll calls).1 <+: (render log).drop p.offset ∧
      refusalsOf (s.answerAll calls).1 ++ left.map .retrieval = errors.map .retrieval ∧
      (left ≠ errors → q.ahead = []) := by
  induction calls generalizing s p errors with
  | nil => exact ⟨p, errors, h, rfl, List.nil_prefix, rfl, fun hne => absurd rfl hne⟩
  | cons call calls ih =>
    obtain ⟨q, left, hattends, hoffset, hpart, hleft, hend⟩ := h.call hsize call
    obtain ⟨r, last, hlast, hoffset', hpart', hleft', hend'⟩ := ih hattends
    rw [bytesOf_answerAll_cons, refusalsOf_answerAll_cons]
    refine ⟨r, last, hlast, ?_, ?_, ?_, ?_⟩
    · rw [hoffset', hoffset, List.length_append, Nat.add_assoc]
    · exact prefix_drop_append hpart (hoffset ▸ hpart')
    · rw [List.append_assoc, hleft', hleft]
    · intro hne
      by_cases hsame : last = left
      · -- The first call reported the error, and behind the end no call moves the stream.
        obtain ⟨hpend, rfl⟩ := hend (hsame ▸ hne)
        have hq := q.offset_eq_length_iff.mpr hpend
        have hr := r.offset_le
        rw [← r.offset_eq_length_iff]
        omega
      · exact hend' hsame

theorem attends_ofLines {seq : LineSequence σ} {lines : List LogLine} (ho : seq.isClosed = false)
    (hitems : seq.items = ⟨lines, errors⟩) :
    (ofLines seq).Attends (.before [] lines (List.nil_append _).symm) errors where
  isOpen := ho
  marked := ⟨rfl, rfl, rfl⟩
  coming := .inl ⟨rfl, hitems⟩

/-- A read with room for a byte delivers none only at the end, once no error is left. -/
theorem Attends.read_eq_nil_iff (h : s.Attends p errors) (hsize : (render log).length < UInt64.size)
    (hn : n ≠ 0) : (s.read n).1 = .ok [] ↔ p.ahead = [] ∧ errors = [] := by
  by_cases hahead : p.ahead = []
  · rw [(h.read_of_end hn hahead).1]
    cases errors <;> simp [atEnd, hahead]
  · rw [(h.read_of_ahead hsize hn hahead).1, Except.ok.injEq, p.portion_eq_nil_iff hn]
    simp [hahead]

theorem Attends.available_iff (h : s.Attends p errors) :
    s.available.1 = .ok true ↔ p.ahead ≠ [] := by
  by_cases hahead : p.ahead = []
  · rw [(h.available_of_end hahead).1]
    cases errors <;> simp [atEnd, hahead]
  · exact iff_of_true (h.available_of_ahead hahead).1 hahead

/-- A read with room for a byte gets one exactly before the end of the log. -/
theorem Attends.read_ne_nil_iff (h : s.Attends p errors) (hsize : (render log).length < UInt64.size)
    (hn : n ≠ 0) : (∃ data, (s.read n).1 = .ok data ∧ data ≠ []) ↔ p.ahead ≠ [] := by
  by_cases hahead : p.ahead = []
  · rw [(h.read_of_end hn hahead).1]
    cases errors <;> simp [atEnd, hahead]
  · rw [(h.read_of_ahead hsize hn hahead).1]
    have hportion : p.portion n ≠ [] := fun hnil => hahead ((p.portion_eq_nil_iff hn).mp hnil)
    exact iff_of_true ⟨_, rfl, hportion⟩ hahead

theorem Attends.read_available_ne_nil_iff (h : s.Attends p errors)
    (hsize : (render log).length < UInt64.size) (hn : n ≠ 0) :
    (∃ data, (s.available.2.read n).1 = .ok data ∧ data ≠ []) ↔ p.ahead ≠ [] := by
  by_cases hahead : p.ahead = []
  · exact (h.available_of_end hahead).2.read_ne_nil_iff hsize hn
  · exact (h.available_of_ahead hahead).2.read_ne_nil_iff hsize hn

/-- At the end of the log a call that asks for more reports the first error that is left. -/
theorem Attends.error?_of_end (h : s.Attends p errors) (hn : n ≠ 0) (hend : p.ahead = []) :
    ∀ call ∈ [ReaderCall.read n, .available],
      (s.answer call).error? = errors.head?.map .retrieval := by
  intro call hmem
  have hcall : call = .read n ∨ call = .available := by simpa using hmem
  rcases hcall with rfl | rfl
  · rw [answer, (h.read_of_end hn hend).1]
    cases errors <;> rfl
  · rw [answer, (h.available_of_end hend).1]
    cases errors <;> rfl

/-- The bytes of a stream over any source, however they are read: whatever sizes reads have and wherever
it is asked what is available, what was delivered is a first part of the lines of the source with their
newlines. The stream has counted it, and it names the last line that went out with its newline. A read
with room for a byte gets none only when all bytes and the error of the source have come, and more is
available exactly when such a read would get a byte. The error is reported once, by the first call behind
all bytes that asks for more, and it is the retrieval error of the source. -/
theorem portions_of_pages (source : σ) (marker : Bool) (calls others : List ReaderCall) :
    let fetched := (PageSource.drain source).1.flatMap Page.lines
    let ending := (PageSource.drain source).2.1
    let lines := fetched ++ LineSequence.markOf marker (fetched.map LogLine.id).max? ending
    let start := ofLines ({ source, marker } : LineSequence σ)
    let run := start.answerAll calls
    let bytes := bytesOf run.1
    let refusals := refusalsOf run.1
    let errors := LineSequence.errorsOf ending
    (render lines).length < UInt64.size →
    bytes <+: render lines ∧
    (bytes <+: bytesOf (start.answerAll others).1 ∨ bytesOf (start.answerAll others).1 <+: bytes) ∧
    run.2.bytesRead.toNat = bytes.length ∧
    (∃ p : Place lines, p.offset = bytes.length ∧ run.2.lastLineId = lastId p.passed) ∧
    refusals.map TransferError.retrieval? <+: errors.map some ∧
    (∀ call, (run.2.answer call).error?.isSome → bytes = render lines ∧ refusals = []) ∧
    ∀ n, n ≠ 0 →
      ((run.2.read n).1 = .ok [] ↔ bytes = render lines ∧ refusals = errors.map .retrieval) ∧
      (run.2.available.1 = .ok true ↔
        ∃ data, (run.2.available.2.read n).1 = .ok data ∧ data ≠ []) ∧
      (bytes = render lines → ∀ call ∈ [ReaderCall.read n, .available],
        refusals ++ (run.2.answer call).error?.toList = errors.map .retrieval) := by
  intro fetched ending lines start run bytes refusals errors hsize
  have hstart : start.Attends (.before [] lines (List.nil_append _).symm) errors :=
    attends_ofLines rfl (LineSequence.items_start source marker)
  obtain ⟨p, left, hattends, hoffset, hpart, hleft, hend⟩ := hstart.answerAll hsize calls
  obtain ⟨-, -, -, -, hpart', -, -⟩ := hstart.answerAll hsize others
  have hzero : (Place.before [] lines (List.nil_append _).symm).offset = 0 := rfl
  rw [hzero, Nat.zero_add] at hoffset
  rw [hzero, List.drop_zero] at hpart hpart'
  -- All bytes have come exactly when no line is ahead.
  have hall : bytes = render lines ↔ p.ahead = [] := by
    rw [← p.offset_eq_length_iff, hoffset]
    exact ⟨congrArg List.length, hpart.eq_of_length⟩
  -- A source has one error at most, so none was reported as long as one is left.
  have hone : errors.length ≤ 1 := LineSequence.length_errorsOf_le ending
  have hcount : refusals.length + left.length = errors.length := by
    have hlength := congrArg List.length hleft
    rw [List.length_append, List.length_map, List.length_map] at hlength
    exact hlength
  have hnone : left = [] ↔ refusals = errors.map .retrieval := by
    rw [← hleft, List.self_eq_append_right, List.map_eq_nil_iff]
  refine ⟨hpart, ?_, ?_, ⟨p, hoffset, hattends.marked.lastLineId⟩, ?_, ?_, ?_⟩
  · exact List.prefix_or_prefix_of_prefix hpart hpart'
  · rw [← hoffset]
    exact hattends.marked.bytesRead
  · refine ⟨left.map some, ?_⟩
    have hcarried := congrArg (List.map TransferError.retrieval?) hleft
    rw [List.map_append, List.map_map, List.map_map] at hcarried
    exact hcarried
  · intro call hsome
    obtain ⟨q, less, -, -, -, hless, hwhere⟩ := hattends.call hsize call
    obtain ⟨e, he⟩ := Option.isSome_iff_exists.mp hsome
    have hfewer := congrArg List.length hless
    rw [he, List.length_append, List.length_map, List.length_map, Option.toList_some,
      List.length_singleton] at hfewer
    have hne : less ≠ left := by
      rintro rfl
      omega
    exact ⟨hall.mpr (hwhere hne).1, List.length_eq_zero_iff.mp (by omega)⟩
  · intro n hn
    refine ⟨?_, ?_, ?_⟩
    · rw [hattends.read_eq_nil_iff hsize hn, hall, hnone]
    · rw [hattends.available_iff, hattends.read_available_ne_nil_iff hsize hn]
    · intro hbytes call hmem
      have herror := hattends.error?_of_end hn (hall.mp hbytes) call hmem
      have hhead : left.head?.toList = left := by
        cases left with
        | nil => rfl
        | cons e left =>
          rw [List.length_cons] at hcount
          have hlast : left = [] := List.length_eq_zero_iff.mp (by omega)
          rw [hlast]
          rfl
      rw [herror, Option.toList_map, hhead]
      exact hleft

section Script

/-- Two lines on two pages, with an empty page between them, and a failure behind them. -/
def failingScript : ScriptedSource where
  outcomes := [.ok (.page ⟨[⟨⟨10⟩, "one"⟩], 200⟩), .ok (.page ⟨[], 200⟩),
    .ok (.page ⟨[⟨⟨20⟩, "two"⟩], 200⟩), .error (.unreachable "down")]

open PageSource in
theorem drain_failingScript :
    (drain failingScript).1 =
      [⟨[⟨⟨10⟩, "one"⟩], 200⟩, ⟨[], 200⟩, ⟨[⟨⟨20⟩, "two"⟩], 200⟩] ∧
    (drain failingScript).2.1 = .error (.unreachable "down") := by
  have hend : ∀ page, (fetchNext (fetchNext (fetchNext (fetchNext failingScript).2).2).2).1 ≠
      .ok (.page page) := fun _ h => nomatch h
  rw [drain_of_page rfl, drain_of_page rfl, drain_of_page rfl, drain_of_end hend]
  exact ⟨rfl, rfl⟩

theorem portions_of_pages_failingScript :
    let run := (ofLines { source := failingScript, marker := true }).answerAll
      [.available, .read 2, .read 0, .read 9, .available, .read 3, .read 3, .read 3]
    let bytes := bytesOf run.1
    bytes <+: [111, 110, 101, 10, 116, 119, 111, 10] ∧
    run.2.bytesRead.toNat = bytes.length ∧
    (refusalsOf run.1).map TransferError.retrieval? <+: [some (.unreachable "down")] ∧
    ((run.2.read 5).1 = .ok [] ↔ bytes = [111, 110, 101, 10, 116, 119, 111, 10] ∧
      refusalsOf run.1 = [.retrieval (.unreachable "down")]) := by
  intro run bytes
  obtain ⟨hpages, hend⟩ := drain_failingScript
  have h := portions_of_pages failingScript true
    [.available, .read 2, .read 0, .read 9, .available, .read 3, .read 3, .read 3] []
  rw [hpages, hend] at h
  obtain ⟨hpart, -, hcount, -, herror, -, hread⟩ := h (by decide)
  exact ⟨hpart, hcount, herror, (hread 5 (by decide)).1⟩

end Script

end ByteStream

end RunLog
