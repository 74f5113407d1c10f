import RunLog.Proofs.Portions
import RunLog.Proofs.Sinks

/-! A stream whose source ends with an error. `Bound` says what it is still to deliver before the error, and
`Settled` that the error has come. Main statement: a call takes its bytes off the front of what is to come,
the error comes once, when all bytes have, and then nothing is asked of the source any more. No bound on
the number of bytes is needed, since what is to come is a list and not a counter. -/

namespace RunLog

namespace LineSequence

variable {σ : Type} [PageSource σ] {seq : LineSequence σ}

/-- A sequence that has ended by itself, with nothing at hand. -/
structure Over (seq : LineSequence σ) : Prop where
  buffer : seq.buffer = []
  opened : seq.state ≠ .opened
  closed : seq.state ≠ .closed

theorem Over.hasNext (h : seq.Over) : seq.hasNext = (.ok false, seq) :=
  hasNext_of_ended h.buffer h.opened h.closed

theorem Over.nextLine (h : seq.Over) : seq.nextLine = (.ok none, seq) := by
  rw [nextLine_eq, h.hasNext]

theorem over_of_failed {e : RetrievalError} (ho : seq.isClosed = false) (h : seq.hasNext.1 = .error e) :
    seq.hasNext.2.Over := by
  obtain ⟨hbuffer, hstate⟩ := failed_of_hasNext ho h
  refine ⟨hbuffer, ?_, ?_⟩
  · rw [hstate]
    exact nofun
  · rw [hstate]
    exact nofun

/-- The error of a sequence is the last of its items, and what it leaves is the end. -/
theorem over_of_error {e : RetrievalError} (ho : seq.isClosed = false) (h : seq.hasNext.1 = .error e) :
    seq.nextLine = (.error e, seq.hasNext.2) ∧ seq.hasNext.2.Over ∧ seq.drain.2.2 = seq.hasNext.2 := by
  have hover := over_of_failed ho h
  have hline : seq.nextLine = (.error e, seq.hasNext.2) := by rw [nextLine_eq, h]
  refine ⟨hline, hover, ?_⟩
  rw [drain_of_error ho (congrArg Prod.fst hline), hline,
    drain_of_ended hover.buffer hover.opened hover.closed]

/-- The errors to come are those that a call reports and those that are left. -/
theorem errors_ask (ho : seq.isClosed = false) (call : ItemCall) :
    (seq.ask call).1.error?.toList ++ (seq.ask call).2.items.errors = seq.items.errors := by
  obtain ⟨hanswer, hafter⟩ := items_ask ho call
  rw [hanswer, hafter]
  exact seq.items.errors_ask call

end LineSequence

namespace ByteStream

variable {σ : Type} [PageSource σ] {s : ByteStream σ} {bytes : List UInt8} {e : RetrievalError}
  {last : LineSequence σ}

/-- The errors that a reader is told are those of the lines, one by one. -/
theorem errors_answer (ho : s.lines.isClosed = false) (call : ReaderCall) :
    (s.answer call).error?.toList ++ (s.after call).lines.items.errors.map .retrieval =
      s.lines.items.errors.map .retrieval := by
  cases call with
  | read n =>
    rw [answer, after]
    by_cases hn : n = 0
    · rw [hn, read_zero ho]
      rfl
    · by_cases hrest : s.rest = []
      · have herrors := LineSequence.errors_ask ho .nextLine
        simp only [LineSequence.ask] at herrors
        rw [read_of_idle ho hn hrest, ← herrors]
        cases hline : s.lines.nextLine.1 with
        | error e => rfl
        | ok found => cases found <;> rfl
      · rw [read_of_pending ho hn hrest]
        rfl
  | available =>
    rw [answer, after]
    by_cases hrest : s.rest = []
    · have herrors := LineSequence.errors_ask ho .hasNext
      simp only [LineSequence.ask] at herrors
      rw [ByteStream.available_of_idle ho hrest, ← herrors]
      cases s.lines.hasNext.1 <;> rfl
    · rw [available_of_pending ho hrest]
      rfl

theorem refusalsOf_answerAll (ho : s.lines.isClosed = false) (calls : List ReaderCall) :
    refusalsOf (s.answerAll calls).1 ++ (s.answerAll calls).2.lines.items.errors.map .retrieval =
      s.lines.items.errors.map .retrieval := by
  -- By induction on the calls; what the first one reports is no longer to come for the others.
  induction calls generalizing s with
  | nil => rfl
  | cons call calls ih =>
    rw [refusalsOf_answerAll_cons, List.append_assoc, ← errors_answer ho call]
    exact congrArg _ (ih ((s.isClosed_after call).trans ho))

/-- An open stream that has the given bytes to deliver and then the error to report, which leaves its
sequence in the given state. -/
structure Bound (s : ByteStream σ) (bytes : List UInt8) (e : RetrievalError) (last : LineSequence σ) :
    Prop where
  isOpen : s.lines.isClosed = false
  discard : s.discard = 0
  bytes : bytes = s.rest ++ render s.lines.items.lines
  errors : s.lines.items.errors = [e]
  last : s.lines.drain.2.2 = last

/-- A stream that has reported its error. -/
structure Settled (s : ByteStream σ) (last : LineSequence σ) : Prop where
  lines : s.lines = last
  isOver : last.Over
  rest : s.rest = []

/-- What a call does that reports the error of a stream. -/
structure Surfaces (s : ByteStream σ) (call : ReaderCall) (e : RetrievalError) (last : LineSequence σ) :
    Prop where
  bytes : (s.answer call).bytes = []
  error : (s.answer call).error? = some (.retrieval e)
  settled : (s.after call).Settled last

/-- What a call does before the error of a stream: it takes some bytes of those to come. -/
def Advances (s : ByteStream σ) (call : ReaderCall) (bytes : List UInt8) (e : RetrievalError)
    (last : LineSequence σ) : Prop :=
  ∃ more, bytes = (s.answer call).bytes ++ more ∧ (s.answer call).error? = none ∧
    (s.after call).Bound more e last

/-- The error comes up in a call that answers with it and leaves the lines over. -/
theorem Surfaces.of_answer {call : ReaderCall} (hrest : s.rest = []) (hover : last.Over)
    (hanswer : s.answer call = .data (.error (.retrieval e)) ∨
      s.answer call = .more (.error (.retrieval e)))
    (hafter : s.after call = { s with lines := last }) : s.Surfaces call e last := by
  refine ⟨?_, ?_, ?_⟩
  · rcases hanswer with h | h <;> rw [h] <;> rfl
  · rcases hanswer with h | h <;> rw [h] <;> rfl
  · rw [hafter]
    exact ⟨rfl, hover, hrest⟩

/-- Once nothing comes before the error, the sequence reports it and is over. -/
theorem Bound.failing (h : s.Bound bytes e last) (hrest : s.rest = [])
    (hlines : s.lines.items.lines = []) :
    bytes = [] ∧ s.lines.hasNext.1 = .error e ∧ s.lines.nextLine = (.error e, s.lines.hasNext.2) ∧
      s.lines.hasNext.2 = last ∧ last.Over := by
  have hitems : s.lines.items = ⟨[], [e]⟩ := by
    rw [← hlines, ← h.errors]
  have hnext := LineSequence.items_hasNext h.isOpen
  rw [hitems] at hnext
  have herror : s.lines.hasNext.1 = .error e := (ItemAnswer.more.inj (Prod.mk.inj hnext).1).symm
  obtain ⟨hline, hover, hlast⟩ := LineSequence.over_of_error h.isOpen herror
  have hsame : s.lines.hasNext.2 = last := hlast.symm.trans h.last
  refine ⟨?_, herror, hline, hsame, hsame ▸ hover⟩
  rw [h.bytes, hrest, hlines]
  rfl

/-- A read with room for a byte gets one, or all have come and it reports the error. -/
theorem Bound.read (h : s.Bound bytes e last) {n : Nat} (hn : n ≠ 0) :
    s.Advances (.read n) bytes e last ∧ (s.answer (.read n)).bytes ≠ [] ∨
      bytes = [] ∧ s.Surfaces (.read n) e last := by
  by_cases hrest : s.rest = []
  · cases hlines : s.lines.items.lines with
    | nil =>
      obtain ⟨hnil, -, hline, hlast, hover⟩ := h.failing hrest hlines
      have hread : s.read n = (.error (.retrieval e), { s with lines := last }) := by
        rw [read_of_idle h.isOpen hn hrest, hline, hlast]
      have hanswer : s.answer (.read n) = .data (.error (.retrieval e)) := by rw [answer, hread]
      exact .inr ⟨hnil, .of_answer hrest hover (.inl hanswer) (congrArg Prod.snd hread)⟩
    | cons line more =>
      -- The first line to come is begun, and as nothing is passed over it comes whole.
      obtain ⟨hline, hmore⟩ := LineSequence.items_nextLine h.isOpen
      have hitems : s.lines.items = ⟨line :: more, [e]⟩ := by
        rw [← hlines, ← h.errors]
      rw [hitems] at hline hmore
      have hline : s.lines.nextLine.1 = .ok (some line) := hline
      have hmore : s.lines.nextLine.2.items = ⟨more, [e]⟩ := hmore
      let begun := s.loaded s.lines.nextLine.2 line
      have hbegun : begun.rest = line.bytes := by
        change line.bytes.drop s.discard = line.bytes
        rw [h.discard, List.drop_zero]
      have hread : s.read n = (.ok (begun.deliver n).1, (begun.deliver n).2) := by
        rw [read_of_idle h.isOpen hn hrest, hline]
      have hbytes : bytes = (begun.deliver n).1 ++ ((begun.deliver n).2.rest ++ render more) := by
        rw [← List.append_assoc, begun.deliver_rest n, hbegun, h.bytes, hrest, hlines]
        rfl
      have hlast : s.lines.nextLine.2.drain.2.2 = last := by
        rw [← h.last, LineSequence.drain_of_line h.isOpen hline]
      left
      rw [Advances, answer, after, hread]
      refine ⟨⟨_, hbytes, rfl, ?_⟩, ?_⟩
      · refine ⟨s.lines.isClosed_nextLine.trans h.isOpen, rfl, ?_, congrArg Items.errors hmore, hlast⟩
        exact congrArg ((begun.deliver n).2.rest ++ render ·) (congrArg Items.lines hmore).symm
      · intro hnil
        have hempty := (begun.deliver_eq_nil_iff hn).mp hnil
        exact line.bytes_ne_nil (hbegun.symm.trans hempty)
  · -- The line at hand goes on.
    left
    rw [Advances, answer, after, read_of_pending h.isOpen hn hrest]
    refine ⟨⟨(s.deliver n).2.rest ++ render s.lines.items.lines, ?_, rfl, ?_⟩, ?_⟩
    · rw [h.bytes, ← s.deliver_rest n, List.append_assoc]
      rfl
    · exact ⟨h.isOpen, h.discard, rfl, h.errors, h.last⟩
    · exact fun hnil => hrest ((s.deliver_eq_nil_iff hn).mp hnil)

theorem Bound.available (h : s.Bound bytes e last) :
    s.Advances .available bytes e last ∨ bytes = [] ∧ s.Surfaces .available e last := by
  by_cases hrest : s.rest = []
  · cases hlines : s.lines.items.lines with
    | nil =>
      obtain ⟨hnil, hnext, -, hlast, hover⟩ := h.failing hrest hlines
      have hmore : s.available = (.error (.retrieval e), { s with lines := last }) := by
        rw [ByteStream.available_of_idle h.isOpen hrest, hnext, hlast]
      have hanswer : s.answer .available = .more (.error (.retrieval e)) := by rw [answer, hmore]
      exact .inr ⟨hnil, .of_answer hrest hover (.inr hanswer) (congrArg Prod.snd hmore)⟩
    | cons line more =>
      have hitems : s.lines.items = ⟨line :: more, [e]⟩ := by
        rw [← hlines, ← h.errors]
      have hnext := LineSequence.items_hasNext h.isOpen
      rw [hitems] at hnext
      obtain ⟨hanswer, hafter⟩ := Prod.mk.inj hnext
      have htrue : s.lines.hasNext.1 = .ok true := (ItemAnswer.more.inj hanswer).symm
      have hdrain := LineSequence.drain_hasNext htrue h.isOpen
      left
      rw [Advances, answer, after, ByteStream.available_of_idle h.isOpen hrest, htrue]
      refine ⟨bytes, rfl, rfl, ?_⟩
      refine ⟨s.lines.isClosed_hasNext.trans h.isOpen, h.discard, ?_, ?_, ?_⟩
      · change bytes = s.rest ++ render s.lines.hasNext.2.items.lines
        rw [← hafter, h.bytes, hlines]
      · change s.lines.hasNext.2.items.errors = [e]
        rw [← hafter]
      · exact (congrArg (·.2.2) hdrain).trans h.last
  · left
    rw [Advances, answer, after, available_of_pending h.isOpen hrest]
    exact ⟨bytes, rfl, rfl, h⟩

theorem Bound.call (h : s.Bound bytes e last) (call : ReaderCall) :
    s.Advances call bytes e last ∨ bytes = [] ∧ s.Surfaces call e last := by
  cases call with
  | available => exact h.available
  | read n =>
    by_cases hn : n = 0
    · left
      rw [hn, Advances, answer, after, read_zero h.isOpen]
      exact ⟨bytes, rfl, rfl, h⟩
    · exact h.read hn |>.imp_left And.left

/-- Behind the error every call says that all is over, and leaves the sequence as it is. -/
theorem Settled.call (h : s.Settled last) (call : ReaderCall) :
    (s.answer call).bytes = [] ∧ (s.answer call).error? = none ∧ (s.after call).Settled last := by
  have hopen : s.lines.isClosed = false := by
    rw [h.lines]
    simpa [LineSequence.isClosed] using h.isOver.closed
  cases call with
  | read n =>
    by_cases hn : n = 0
    · rw [hn, answer, after, read_zero hopen]
      exact ⟨rfl, rfl, h⟩
    · rw [answer, after, read_of_idle hopen hn h.rest, h.lines, h.isOver.nextLine]
      exact ⟨rfl, rfl, rfl, h.isOver, rfl⟩
  | available =>
    rw [answer, after, ByteStream.available_of_idle hopen h.rest, h.lines, h.isOver.hasNext]
    exact ⟨rfl, rfl, rfl, h.isOver, h.rest⟩

theorem Settled.answerAll (h : s.Settled last) (calls : List ReaderCall) :
    bytesOf (s.answerAll calls).1 = [] ∧ refusalsOf (s.answerAll calls).1 = [] ∧
      (s.answerAll calls).2.Settled last := by
  induction calls generalizing s with
  | nil => exact ⟨rfl, rfl, h⟩
  | cons call calls ih =>
    obtain ⟨hbytes, herror, hsettled⟩ := h.call call
    obtain ⟨hmore, hothers, hlast⟩ := ih hsettled
    rw [bytesOf_answerAll_cons, refusalsOf_answerAll_cons, hbytes, hmore, herror, hothers]
    exact ⟨rfl, rfl, hlast⟩

/-- Whatever calls are made, either some bytes are left and no error has come, or all bytes have come and
the error has, once. -/
theorem Bound.answerAll (h : s.Bound bytes e last) (calls : List ReaderCall) :
    (∃ more, bytes = bytesOf (s.answerAll calls).1 ++ more ∧ refusalsOf (s.answerAll calls).1 = [] ∧
      (s.answerAll calls).2.Bound more e last) ∨
    bytesOf (s.answerAll calls).1 = bytes ∧ refusalsOf (s.answerAll calls).1 = [.retrieval e] ∧
      (s.answerAll calls).2.Settled last := by
  induction calls generalizing s bytes with
  | nil => exact .inl ⟨bytes, rfl, rfl, h⟩
  | cons call calls ih =>
    rw [bytesOf_answerAll_cons, refusalsOf_answerAll_cons]
    rcases h.call call with ⟨more, hbytes, hnone, hbound⟩ | ⟨hnil, hsurfaces⟩
    · rw [hnone, hbytes]
      rcases ih hbound with ⟨rest, hrest, hothers, hlater⟩ | ⟨hall, hothers, hsettled⟩
      · refine .inl ⟨rest, ?_, hothers, hlater⟩
        rw [hrest, List.append_assoc]
      · exact .inr ⟨congrArg ((s.answer call).bytes ++ ·) hall, hothers, hsettled⟩
    · obtain ⟨hmore, hothers, hsettled⟩ := hsurfaces.settled.answerAll calls
      right
      rw [hsurfaces.bytes, hsurfaces.error, hmore, hothers, hnil]
      exact ⟨rfl, rfl, hsettled⟩

/-- Reading to the end brings all bytes and the error behind them. -/
theorem Bound.collect {s : ByteStream σ} {bytes : List UInt8} (h : s.Bound bytes e last) :
    (s.collect none).1 = bytes ∧ (s.collect none).2.1 = some (.retrieval e) ∧
      (s.collect none).2.2.Settled last := by
  have hread : ReaderAnswer.data (s.read chunkSize).1 = s.answer (.read chunkSize) := rfl
  rw [collect_eq]
  rcases h.read (n := chunkSize) (by decide) with ⟨⟨more, hbytes, hnone, hbound⟩, hne⟩ | ⟨hnil, hsurfaces⟩
  · cases hdata : (s.read chunkSize).1 with
    | error e' =>
      rw [← hread, hdata] at hnone
      exact nomatch hnone
    | ok data =>
      rw [← hread, hdata] at hbytes hne
      cases data with
      | nil => exact absurd rfl hne
      | cons byte data =>
        have hshorter : more.length < bytes.length := by
          rw [hbytes, List.length_append]
          exact Nat.lt_add_of_pos_left (Nat.succ_pos _)
        obtain ⟨hall, herror, hsettled⟩ := Bound.collect hbound
        refine ⟨?_, herror, hsettled⟩
        rw [hbytes]
        exact congrArg (byte :: data ++ ·) hall
  · have herror := hsurfaces.error
    cases hdata : (s.read chunkSize).1 with
    | ok data =>
      rw [← hread, hdata] at herror
      exact nomatch herror
    | error e' =>
      rw [← hread, hdata] at herror
      exact ⟨hnil.symm, herror, hsurfaces.settled⟩
termination_by bytes.length

end ByteStream

namespace LineSequence

variable {σ : Type} [PageSource σ]

/-- A sequence whose source ends with an error is left with that source as it then is. -/
theorem last_of_failing (source : σ) (marker : Bool) (high : Option LineId) {e : RetrievalError}
    (h : (PageSource.drain source).2.1 = .error e) :
    (drain ⟨source, [], .opened, marker, high⟩).2.2.source = (PageSource.drain source).2.2 := by
  have hnext := @hasNext_of_opened σ _ ⟨source, [], .opened, marker, high⟩ rfl rfl
  cases hfetch : (PageSource.fetchNext source).1 with
  | error e' =>
    have hend := PageSource.drain_of_end (s := source) fun page hp => nomatch hfetch.symm.trans hp
    simp only [hfetch] at hnext
    obtain ⟨-, -, hlast⟩ := over_of_error rfl (congrArg Prod.fst hnext)
    rw [hlast, hnext, hend]
  | ok outcome =>
    cases outcome with
    | page page =>
      have hlt := PageSource.fetchesLeft_lt source page hfetch
      simp only [hfetch] at hnext
      rw [PageSource.drain_of_page hfetch] at h ⊢
      rw [drain_congr hnext rfl rfl, drain_buffer rfl]
      exact last_of_failing (PageSource.fetchNext source).2 marker (raised high page) h
    | exhausted =>
      rw [PageSource.drain_of_end (s := source) fun page hp => nomatch hfetch.symm.trans hp] at h
      exact nomatch hfetch.symm.trans h
    | circuitBroken breaker =>
      rw [PageSource.drain_of_end (s := source) fun page hp => nomatch hfetch.symm.trans hp] at h
      exact nomatch hfetch.symm.trans h
termination_by PageSource.fetchesLeft source

end LineSequence

namespace Opening

variable {σ : Type} [PageSource σ] {source : σ} {e : RetrievalError}

/-- The lines of a log at its opening. -/
def lines (source : σ) (options : StreamOptions) : LineSequence σ := { source, marker := options.marker }

theorem ofSource_eq (source : σ) (options : StreamOptions) :
    ofSource source options = match (lines source options).hasNext.1 with
      | .ok _ => .opened (.ofStream (.ofLines (lines source options).hasNext.2) options.tailKb)
      | .error e => .refused e (lines source options).hasNext.2.source := by
  unfold ofSource lines
  generalize @LineSequence.hasNext σ _ _ = looked
  obtain ⟨_ | _, seq⟩ := looked <;> rfl

theorem ofSource_of_error (options : StreamOptions) (h : (PageSource.fetchNext source).1 = .error e) :
    ofSource source options = .refused e (PageSource.fetchNext source).2 := by
  have hnext := @LineSequence.hasNext_of_opened σ _ (lines source options) rfl rfl
  simp only [lines, h] at hnext
  rw [ofSource_eq, lines, hnext]

/-- A log opens as soon as it is known whether a line follows. -/
theorem ofSource_of_hasNext {options : StreamOptions} {more : Bool}
    (h : (lines source options).hasNext.1 = .ok more) :
    ofSource source options =
      .opened (.ofStream (.ofLines (lines source options).hasNext.2) options.tailKb) := by
  rw [ofSource_eq, h]

theorem ofSource_of_ok (options : StreamOptions) {outcome : PageOutcome}
    (h : (PageSource.fetchNext source).1 = .ok outcome)
    (hne : ∀ page, outcome = .page page → page.lines ≠ []) :
    ∃ log, ofSource source options = .opened log := by
  have hnext := @LineSequence.hasNext_of_opened σ _ (lines source options) rfl rfl
  simp only [lines, h] at hnext
  cases outcome with
  | page page =>
    have hmore := hnext.trans (LineSequence.hasNext_of_buffer_ne_nil (by exact hne page rfl))
    exact ⟨_, ofSource_of_hasNext (congrArg Prod.fst hmore)⟩
  | exhausted | circuitBroken => exact ⟨_, ofSource_of_hasNext (congrArg Prod.fst hnext)⟩

/-- Whatever error comes up in an opened log, its source ends with one. -/
theorem failing_of_refusals {options : StreamOptions} {log : ViewerLog σ}
    (h : ofSource source options = .opened log) {calls : List ReaderCall}
    (hrefused : refusalsOf (log.stream.answerAll calls).1 ≠ []) :
    ∃ e, (PageSource.drain source).2.1 = .error e := by
  let seq := lines source options
  cases hmore : seq.hasNext.1 with
  | error e =>
    rw [ofSource_eq, hmore] at h
    exact nomatch h
  | ok more =>
    obtain rfl := Opening.opened.inj ((ofSource_of_hasNext hmore).symm.trans h)
    -- Looking ahead takes nothing, and what was told is among the errors that were to come.
    have herrors : seq.hasNext.2.items.errors = LineSequence.errorsOf (PageSource.drain source).2.1 := by
      rw [LineSequence.items, LineSequence.drain_hasNext hmore rfl]
      exact congrArg Items.errors (LineSequence.items_start source options.marker)
    have hall := ByteStream.refusalsOf_answerAll (s := .ofLines seq.hasNext.2)
      ((seq.isClosed_hasNext).trans rfl) calls
    cases hend : (PageSource.drain source).2.1 with
    | error e => exact ⟨e, rfl⟩
    | ok outcome =>
      rw [hend] at herrors
      change _ = seq.hasNext.2.items.errors.map _ at hall
      rw [herrors] at hall
      exact absurd (List.append_eq_nil_iff.mp hall).1 hrefused

/-- A source whose first page has lines opens, and if it ends with an error later, the stream is to
deliver the lines of all its pages and then report it. -/
theorem ofSource_of_failing (options : StreamOptions) {page : Page} {pages : List Page}
    (hpages : (PageSource.drain source).1 = page :: pages) (hne : page.lines ≠ [])
    (hend : (PageSource.drain source).2.1 = .error e) :
    ∃ log last, ofSource source options = .opened log ∧
      log.stream.Bound (render ((page :: pages).flatMap Page.lines)) e last ∧
      last.source = (PageSource.drain source).2.2 := by
  let seq := lines source options
  have hitems : seq.items = ⟨(page :: pages).flatMap Page.lines, [e]⟩ := by
    have hmark (high : Option LineId) :
        LineSequence.markOf options.marker high (.error e) = [] := rfl
    change LineSequence.items { source, marker := options.marker } = _
    rw [LineSequence.items_start, hpages, hend, hmark, List.append_nil]
    rfl
  -- A line is to come, so looking ahead takes nothing.
  have hask := @LineSequence.items_hasNext σ _ seq rfl
  obtain ⟨line, lines, hcons⟩ := List.exists_cons_of_ne_nil hne
  rw [hitems, List.flatMap_cons, hcons] at hask
  obtain ⟨hanswer, hafter⟩ := Prod.mk.inj hask
  have htrue : seq.hasNext.1 = .ok true := (ItemAnswer.more.inj hanswer).symm
  have hdrain := LineSequence.drain_hasNext htrue rfl
  refine ⟨.ofStream (.ofLines seq.hasNext.2) options.tailKb, seq.drain.2.2, ?_, ?_, ?_⟩
  · exact ofSource_of_hasNext htrue
  · refine ⟨(seq.isClosed_hasNext).trans rfl, rfl, ?_, ?_, congrArg (·.2.2) hdrain⟩
    · change _ = render seq.hasNext.2.items.lines
      rw [← hafter, List.flatMap_cons, hcons]
    · change seq.hasNext.2.items.errors = [e]
      rw [← hafter]
  · exact LineSequence.last_of_failing source options.marker none hend

end Opening

end RunLog
