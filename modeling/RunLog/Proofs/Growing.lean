import RunLog.Proofs.Position

namespace RunLog

open LogBackend

/-- A window start that leaves out none of the lines that may be appended to the stored ones. -/
def Aligned (start : LineId) (lines : List LogLine) (windowStart : LineId) : Prop :=
  ∀ more, IsLog (lines ++ more) → fromId windowStart more = fromId start more

section Aligned

variable {start : LineId} {lines : List LogLine}

theorem fromId_append (start : LineId) (xs ys : List LogLine) :
    fromId start (xs ++ ys) = fromId start xs ++ fromId start ys := List.filter_append ..

theorem Aligned.append {windowStart : LineId} (h : Aligned start lines windowStart)
    {more : List LogLine} (hlog : IsLog (lines ++ more)) :
    Aligned start (lines ++ more) windowStart := by
  intro others hothers
  rw [List.append_assoc] at hothers
  have hall := h (more ++ others) hothers
  rw [fromId_append, fromId_append, h more hlog] at hall
  exact List.append_cancel_left hall

/-- What is appended lies behind all stored lines, so that passing one of them leaves it out. -/
theorem Aligned.passing {cursor : Cursor} (h : Aligned start lines cursor.windowStart)
    {line : LogLine} (hline : line ∈ lines) :
    Aligned start lines (cursor.passing line.id).windowStart := by
  intro more hlog
  have hbehind := (List.pairwise_append.mp hlog.ascending).2.2 line hline
  rw [cursor.fromId_passing line.id fun other ho => hlog.below other (List.mem_append_right _ ho),
    h more hlog]
  apply List.filter_eq_self.mpr
  intro other hother
  exact decide_eq_true (hbehind other (List.mem_filter.mp hother).1)

theorem Aligned.behind {cursor : Cursor} (h : Aligned start lines cursor.windowStart)
    {page : List LogLine} (hpage : ∀ line ∈ page, line ∈ lines) :
    Aligned start lines (cursor.behind page).windowStart := by
  unfold Cursor.behind
  split
  · next last hlast =>
    have hin := (Cursor.arrange_perm page).mem_iff.mp (List.mem_of_getLast? hlast)
    exact h.passing (hpage last hin)
  · exact h

theorem Aligned.fetchNext {φ : Type} [PageFetcher φ] [LogBackend φ] {s : PagedSource φ}
    (h : Aligned start lines s.cursor.windowStart) (hstored : stored s.fetcher = lines) :
    Aligned start lines s.fetchNext.2.cursor.windowStart := by
  have hlines := lines_fetch s.fetcher s.cursor.windowStart s.limits.pageSize
  have hfetched := s.fetched
  generalize s.fetchNext.1 = answer at hfetched
  generalize s.fetchNext.2 = t at hfetched ⊢
  cases hfetched with
  | ended => exact h
  | broken => exact h
  | failed => exact h
  | loaded page fetcher asked he hb hf ha =>
    have hasked : Aligned start lines asked.windowStart := by rwa [ha]
    apply hasked.behind
    intro line hline
    rw [hlines page (by rw [hf]), hstored] at hline
    exact (List.mem_filter.mp (List.mem_of_mem_take hline)).1

end Aligned

namespace LineSequence

variable {φ : Type} [PageFetcher φ]

/-- An open sequence that fetches no more and has no lines at hand. -/
structure Ended {σ : Type} (seq : LineSequence σ) : Prop where
  buffer : seq.buffer = []
  notOpened : seq.state ≠ .opened
  isOpen : seq.state ≠ .closed

theorem Ended.isClosed_eq {σ : Type} {seq : LineSequence σ} (h : seq.Ended) : seq.isClosed = false := by
  simp [isClosed, h.isOpen]

theorem Ended.hasNext {σ : Type} [PageSupply σ] {seq : LineSequence σ} (h : seq.Ended) :
    seq.hasNext = (.ok false, seq) := hasNext_of_ended h.buffer h.notOpened h.isOpen

variable [LogBackend φ]

/-- All lines that a sequence brings are among those ahead, in order and without a gap. It need not
bring all of them: it may have ended before the others were appended, or because a query failed. -/
structure Brings (start : LineId) (lines : List LogLine) (seq : LineSequence (PagedSource φ))
    (rest : List LogLine) : Prop where
  pages : seq.source.PagesOver False lines
  aligned : Aligned start lines seq.source.cursor.windowStart
  split : ∃ tail, rest = seq.buffer ++ tail ∧
    (seq.state = .opened → seq.source.cursor.exhausted = false → seq.source.Owes tail)

theorem Brings.start {backend : φ} (hlog : IsLog (stored backend)) (start : LineId) {limits : Limits}
    (hp : 0 < limits.pageSize) (marker : Bool) :
    Brings start (stored backend) { source := .start backend start limits, marker }
      (fromId start (stored backend)) where
  pages := ⟨hlog, rfl, hp, nofun⟩
  aligned := fun _ _ => rfl
  split := ⟨_, rfl, fun _ _ => .inl rfl⟩

variable {start : LineId} {lines rest : List LogLine} {seq : LineSequence (PagedSource φ)}

theorem Brings.of_ended (h : Brings start lines seq rest) {after : LineSequence (PagedSource φ)}
    (hsource : after.source = seq.source.fetchNext.2) (hended : after.Ended) :
    Brings start lines after rest where
  pages := hsource ▸ h.pages.fetchNext
  aligned := hsource ▸ h.aligned.fetchNext h.pages.stored_eq
  split := ⟨rest, by rw [hended.buffer]; rfl, fun ho => absurd ho hended.notOpened⟩

/-- One fetch decides: a page that comes is not empty, and without a page the sequence ends. -/
theorem Brings.fetchNext (h : Brings start lines seq rest) (hb : seq.buffer = [])
    (ho : seq.state = .opened) (hq : seq.source.fetchNext.2.cursor.tripped = none) :
    (∃ page more, seq.source.fetchNext.1 = .ok (.page page) ∧ page.lines ≠ [] ∧
      rest = page.lines ++ more ∧ seq.source.fetchNext.2.Owes more) ∨
    seq.source.fetchNext.1 = .ok .exhausted ∨ ∃ e, seq.source.fetchNext.1 = .error e := by
  obtain ⟨tail, hrest, howes⟩ := h.split
  rw [hb, List.nil_append] at hrest
  subst hrest
  cases he : seq.source.cursor.exhausted with
  | true => exact .inr (.inl (by rw [PagedSource.fetchNext, if_pos he]))
  | false =>
    rcases (howes ho he).fetchNext h.pages hq with ⟨hf, -⟩ | hpage | ⟨e, hf, -⟩
    · exact .inr (.inl hf)
    · exact .inl hpage
    · exact .inr (.inr ⟨e, hf⟩)

/-- Looking ahead takes no line; without a line at hand the sequence has ended. -/
theorem Brings.hasNext (h : Brings start lines seq rest) (hc : seq.isClosed = false)
    (hq : seq.hasNext.2.source.cursor.tripped = none) :
    Brings start lines seq.hasNext.2 rest ∧
      ((seq.hasNext.1 = .ok true ∧ seq.hasNext.2.buffer ≠ []) ∨
        (seq.hasNext.1 = .ok false ∨ ∃ e, seq.hasNext.1 = .error e) ∧ seq.hasNext.2.Ended) := by
  by_cases hb : seq.buffer = []
  · by_cases ho : seq.state = .opened
    · have hfetch := h.fetchNext hb ho (tripped_fetchNext_of_hasNext hb ho hq)
      rw [hasNext_of_opened hb ho]
      rcases hfetch with ⟨page, more, hf, hne, rfl, hmore⟩ | hf | ⟨e, hf⟩
      · simp only [PagedSource.fetchNext_paged, hf]
        rw [hasNext_of_buffer_ne_nil (by exact hne)]
        exact ⟨⟨h.pages.fetchNext, h.aligned.fetchNext h.pages.stored_eq, more, rfl,
          fun _ _ => hmore⟩, .inl ⟨rfl, hne⟩⟩
      · simp only [PagedSource.fetchNext_paged, hf]
        have hended : Ended { seq with source := seq.source.fetchNext.2, state := .exhausted } :=
          ⟨hb, by simp, by simp⟩
        exact ⟨h.of_ended rfl hended, .inr ⟨.inl trivial, hended⟩⟩
      · simp only [PagedSource.fetchNext_paged, hf]
        have hended : Ended { seq with source := seq.source.fetchNext.2, state := .failed } :=
          ⟨hb, by simp, by simp⟩
        exact ⟨h.of_ended rfl hended, .inr ⟨.inr ⟨e, rfl⟩, hended⟩⟩
    · have hclosed : seq.state ≠ .closed := by simpa [isClosed] using hc
      rw [hasNext_of_ended hb ho hclosed]
      exact ⟨h, .inr ⟨.inl rfl, hb, ho, hclosed⟩⟩
  · rw [hasNext_of_buffer_ne_nil hb]
    exact ⟨h, .inl ⟨rfl, hb⟩⟩

/-- The line that is taken is the first of those ahead; where none is taken the sequence has ended. -/
theorem Brings.nextLine (h : Brings start lines seq rest) (hc : seq.isClosed = false)
    (hq : seq.nextLine.2.source.cursor.tripped = none) :
    (∃ line more, seq.nextLine.1 = .ok (some line) ∧ rest = line :: more ∧
      Brings start lines seq.nextLine.2 more) ∨
    ((seq.nextLine.1 = .ok none ∨ ∃ e, seq.nextLine.1 = .error e) ∧
      Brings start lines seq.nextLine.2 rest ∧ seq.nextLine.2.Ended) := by
  rw [nextLine_source] at hq
  rw [nextLine_eq]
  obtain ⟨hbrings, ⟨hans, hne⟩ | ⟨hans | ⟨e, hans⟩, hended⟩⟩ := h.hasNext hc hq
  · left
    rw [hans]
    obtain ⟨tail, hrest, howes⟩ := hbrings.split
    obtain ⟨line, others, hcons⟩ := List.exists_cons_of_ne_nil hne
    refine ⟨line, others ++ tail, by rw [hcons]; rfl, by rw [hrest, hcons]; rfl, hbrings.pages,
      hbrings.aligned, tail, by rw [hcons]; rfl, howes⟩
  · right
    rw [hans]
    exact ⟨.inl rfl, hbrings, hended⟩
  · right
    rw [hans]
    exact ⟨.inr ⟨e, rfl⟩, hbrings, hended⟩

/-- Skipping to a line of the log takes the lines up to it from those ahead. -/
theorem Brings.skipTo (h : Brings start lines seq rest) (hord : Ordered rest) {line : LogLine}
    (hline : line ∈ lines) : Brings start lines (seq.skipTo line.id) (beyond line.id rest) := by
  obtain ⟨tail, hrest, howes⟩ := h.split
  have hbuffer : Ordered seq.buffer := hord.sublist (hrest ▸ List.sublist_append_left _ _)
  refine ⟨h.pages.seekPast line.id, h.aligned.passing hline, beyond line.id tail, ?_, ?_⟩
  · change beyond line.id rest = seq.buffer.dropWhile (fun other => other.id ≤ line.id) ++ _
    rw [hrest, beyond_append, hbuffer.dropWhile_eq_beyond]
  · intro ho he
    have hwas := (seq.source.cursor.passing_exhausted line.id).symm.trans he
    exact (howes ho hwas).seekPast h.pages line.id

theorem stored_hasNext (seq : LineSequence (PagedSource φ)) :
    stored seq.hasNext.2.source.fetcher = stored seq.source.fetcher := by
  fun_induction LineSequence.hasNext seq with
  | case4 seq hb hs answer page hpage ih => exact ih.trans (PagedSource.fetched _).stored_eq
  | case1 | case2 | case3 | case9 => rfl
  | _ => exact (PagedSource.fetched _).stored_eq

/-- The sequence over a backend in another state. -/
def onBackend (seq : LineSequence (PagedSource φ)) (fetcher : φ) : LineSequence (PagedSource φ) :=
  { seq with source := { seq.source with fetcher } }

/-- What is appended to the log is appended to what lies ahead. -/
theorem Brings.append (h : Brings start lines seq rest) {fetcher : φ} {more : List LogLine}
    (hstored : stored fetcher = lines ++ more) (hlog : IsLog (lines ++ more)) :
    Brings start (lines ++ more) (seq.onBackend fetcher) (rest ++ fromId start more) := by
  obtain ⟨tail, hrest, howes⟩ := h.split
  refine ⟨⟨hlog, hstored, h.pages.pageSize_pos, nofun⟩, h.aligned.append hlog,
    tail ++ fromId start more, ?_, ?_⟩
  · rw [hrest, List.append_assoc]
    rfl
  · intro ho he
    rcases howes ho he with hahead | hspent
    · left
      have hnow := PagedSource.ahead_of_open (s := seq.source) he
      rw [hahead, h.pages.stored_eq] at hnow
      rw [PagedSource.ahead_of_open he, hnow]
      change fromId seq.source.cursor.windowStart (stored fetcher) = _
      rw [hstored, fromId_append, h.aligned more hlog]
    · exact .inr hspent

end LineSequence

namespace ByteStream

open LineSequence

section Strayed

variable {σ : Type} {log : List LogLine} {s : ByteStream σ} {p : Place log}

/-- A stream that was resumed within a line, and was told that no line comes: what was to be passed over
of the line is forgotten. -/
structure Strayed (s : ByteStream σ) (p : Place log) : Prop where
  ended : s.lines.Ended
  bytesRead : s.bytesRead.toNat = p.offset
  lastLineId : s.lastLineId = lastId p.passed
  rest : s.rest = []
  discard : s.discard = 0

/-- What it records is the last line before the place, if there is one, and nothing of the next. -/
theorem Strayed.resumePoint? (h : s.Strayed p) :
    s.resumePoint? = (lastId p.passed).map fun id => ⟨some id, 0⟩ := by
  have hnone : s.linePending = false := by simp [linePending, h.rest]
  rw [ByteStream.resumePoint?, h.lastLineId, hnone, h.discard]
  cases lastId p.passed <;> rfl

theorem Strayed.isOpen (h : s.Strayed p) : s.lines.isClosed = false := h.ended.isClosed_eq

variable [PageSupply σ]

/-- A sequence that has ended leaves a stream nothing to deliver and nothing to pass over. -/
theorem read_of_ended (h : s.lines.Ended) (hr : s.rest = []) {n : Nat} (hn : n ≠ 0) :
    s.read n = (.ok [], { s with rest := [], position := 0, discard := 0 }) := by
  have hnone : s.lines.nextLine = (.ok none, s.lines) := by rw [nextLine_eq, h.hasNext]
  rw [read_of_idle h.isClosed_eq hn hr, hnone]

theorem Strayed.read (h : s.Strayed p) (n : Nat) :
    (s.read n).1 = .ok [] ∧ (s.read n).2.Strayed p := by
  by_cases hn : n = 0
  · rw [hn, read_zero h.isOpen]
    exact ⟨rfl, h⟩
  · rw [read_of_ended h.ended h.rest hn]
    exact ⟨rfl, h.ended, h.bytesRead, h.lastLineId, rfl, rfl⟩

theorem Strayed.available (h : s.Strayed p) : s.available.2.Strayed p := by
  rw [available_of_idle h.isOpen h.rest, h.ended.hasNext]
  exact ⟨h.ended, h.bytesRead, h.lastLineId, h.rest, h.discard⟩

end Strayed

variable {φ : Type} [PageFetcher φ]

/-- The stream over a backend in another state. -/
def onBackend (s : ByteStream (PagedSource φ)) (fetcher : φ) : ByteStream (PagedSource φ) :=
  { s with lines := s.lines.onBackend fetcher }

variable [LogBackend φ] {start : LineId} {lines log : List LogLine} {s : ByteStream (PagedSource φ)}
  {p : Place log}

/-- An open stream that knows its place, and goes on with the lines ahead of it as far as it gets. -/
structure Keeps (start : LineId) (lines : List LogLine) {log : List LogLine}
    (s : ByteStream (PagedSource φ)) (p : Place log) : Prop where
  isOpen : s.lines.isClosed = false
  marked : s.MarkedAt p
  coming : s.rest = [] ∧ Brings start lines s.lines p.ahead ∨
    ∃ line more, s.Begun p line more ∧ Brings start lines s.lines more

theorem Begun.keeps {line : LogLine} {more : List LogLine} (h : s.Begun p line more)
    (ho : s.lines.isClosed = false) (hm : s.MarkedAt p) (hlines : Brings start lines s.lines more)
    (hsize : (render log).length < UInt64.size) {n : Nat} (hn : n ≠ 0) :
    (s.deliver n).1 ≠ [] ∧ ∃ q : Place log, (s.deliver n).2.Keeps start lines q ∧
      ((s.deliver n).2.rest = [] → q.into = 0) := by
  obtain ⟨q, hmarked, -, hcoming⟩ := h.deliver hm hsize n
  refine ⟨mt (s.deliver_eq_nil_iff hn).mp h.rest_ne_nil, q, ⟨ho, hmarked, ?_⟩, ?_⟩
  · rcases hcoming with ⟨hrest, hahead⟩ | hbegun
    · exact .inl ⟨hrest, hahead ▸ hlines⟩
    · exact .inr ⟨line, more, hbegun, hlines⟩
  · intro hrest
    rw [← hmarked.discard_eq hrest]
    exact h.discard

/-- What a read with room for a byte does: it delivers bytes of the line ahead, or none because the
sequence has ended, or it fails. -/
theorem Keeps.read (h : s.Keeps start lines p) (hsize : (render log).length < UInt64.size) {n : Nat}
    (hn : n ≠ 0) (hq : (s.read n).2.lines.source.cursor.tripped = none) :
    (∃ data, (s.read n).1 = .ok data ∧ data ≠ [] ∧ ∃ q : Place log, (s.read n).2.Keeps start lines q ∧
      ((s.read n).2.rest = [] → q.into = 0)) ∨
    ((s.read n).1 = .ok [] ∧ s.rest = [] ∧
      ((s.read n).2.Keeps start lines p ∧ p.into = 0 ∨ (s.read n).2.Strayed p ∧ p.into ≠ 0)) ∨
    ((∃ e, (s.read n).1 = .error e) ∧ s.rest = [] ∧ (s.read n).2.Keeps start lines p) := by
  have hopen := (s.isClosed_read n).trans h.isOpen
  rcases h.coming with ⟨hrest, hlines⟩ | ⟨line, more, hbegun, hlines⟩
  · rw [read_of_idle h.isOpen hn hrest] at hq hopen ⊢
    have htripped : s.lines.nextLine.2.source.cursor.tripped = none := by
      revert hq
      split <;> exact id
    rcases hlines.nextLine h.isOpen htripped with
      ⟨line, more, hans, hahead, hmore⟩ | ⟨hans | ⟨e, hans⟩, hsame, hended⟩
    · left
      rw [hans] at hopen ⊢
      obtain ⟨hm, hbegun⟩ := h.marked.loaded hrest hahead s.lines.nextLine.2
      obtain ⟨hne, q, hkeeps, hinto⟩ := hbegun.keeps hopen hm hmore hsize hn
      exact ⟨_, rfl, hne, q, hkeeps, hinto⟩
    · right
      left
      rw [hans] at hopen ⊢
      refine ⟨rfl, hrest, ?_⟩
      by_cases hinto : p.into = 0
      · left
        exact ⟨⟨hopen, ⟨h.marked.bytesRead, h.marked.lastLineId, hinto.symm⟩, .inl ⟨rfl, hsame⟩⟩,
          hinto⟩
      · right
        exact ⟨⟨hended, h.marked.bytesRead, h.marked.lastLineId, rfl, rfl⟩, hinto⟩
    · right
      right
      rw [hans] at hopen ⊢
      -- What is to be passed over is kept where a fetch failed.
      exact ⟨⟨_, rfl⟩, hrest, hopen, ⟨h.marked.bytesRead, h.marked.lastLineId, h.marked.into⟩,
        .inl ⟨hrest, hsame⟩⟩
  · left
    rw [read_of_pending h.isOpen hn hbegun.rest_ne_nil]
    obtain ⟨hne, q, hkeeps, hinto⟩ := hbegun.keeps h.isOpen h.marked hlines hsize hn
    exact ⟨_, rfl, hne, q, hkeeps, hinto⟩

theorem Keeps.available (h : s.Keeps start lines p)
    (hq : s.available.2.lines.source.cursor.tripped = none) :
    s.available.2.Keeps start lines p ∧ s.available.2.rest = s.rest := by
  rcases h.coming with ⟨hrest, hlines⟩ | ⟨line, more, hbegun, hlines⟩
  · have hopen := s.lines.isClosed_hasNext.trans h.isOpen
    rw [available_of_idle h.isOpen hrest] at hq ⊢
    have htripped : s.lines.hasNext.2.source.cursor.tripped = none := by
      revert hq
      split <;> exact id
    have hkeeps :
        ({ s with lines := s.lines.hasNext.2 } : ByteStream (PagedSource φ)).Keeps start lines p :=
      ⟨hopen, ⟨h.marked.bytesRead, h.marked.lastLineId, h.marked.into⟩,
        .inl ⟨hrest, (hlines.hasNext h.isOpen htripped).1⟩⟩
    split <;> exact ⟨hkeeps, rfl⟩
  · rw [available_of_pending h.isOpen hbegun.rest_ne_nil]
    exact ⟨h, rfl⟩

theorem Keeps.append (h : s.Keeps start lines p) {fetcher : φ} {more : List LogLine}
    (hstored : stored fetcher = lines ++ more) (hlog : IsLog (lines ++ more)) :
    (s.onBackend fetcher).Keeps start (lines ++ more) (p.extend (fromId start more)) := by
  refine ⟨h.isOpen, ⟨h.marked.bytesRead, h.marked.lastLineId, h.marked.into⟩, ?_⟩
  rcases h.coming with ⟨hrest, hlines⟩ | ⟨line, others, hbegun, hlines⟩
  · exact .inl ⟨hrest, hlines.append hstored hlog⟩
  · right
    refine ⟨line, others ++ fromId start more, ⟨?_, hbegun.rest, hbegun.currentId, hbegun.discard⟩,
      hlines.append hstored hlog⟩
    change p.ahead ++ fromId start more = _
    rw [hbegun.ahead]
    rfl

/-- From the begin of the log a jump lands on the place that the point names. -/
theorem Keeps.jump {begin : Place log} (h : s.Keeps start lines begin) (hr : s.rest = [])
    (hbegin : begin.offset = 0) (hfrom : log = fromId start lines) (hlog : IsLog lines)
    (hsize : (render log).length < UInt64.size) {target : UInt64} (htarget : target.toNat = p.offset) :
    (s.jump target p.point).Keeps start lines p := by
  refine ⟨(s.isClosed_jump _ _).trans h.isOpen, s.markedAt_jump hsize htarget, .inl ⟨rfl, ?_⟩⟩
  have hasc : Ascending log := hfrom ▸ (hlog.fromId start).ascending
  have hall : Brings start lines s.lines log := by
    rcases h.coming with ⟨-, hlines⟩ | ⟨line, more, hbegun, -⟩
    · rwa [Place.ahead_of_passed_eq_nil (Place.passed_of_offset_eq_zero hbegin).1] at hlines
    · exact absurd hr hbegun.rest_ne_nil
  rw [← p.behindPage_passed (List.nil_append log).symm hasc (Nat.zero_le _)]
  rw [ByteStream.jump, Place.point, behindPage]
  dsimp only
  cases hid : lastId p.passed with
  | none => exact hall
  | some id =>
    -- The last line passed is one of the stored ones.
    obtain ⟨last, hlast, rfl⟩ := Option.map_eq_some_iff.mp hid
    have hin : last ∈ log := p.split ▸ List.mem_append_left _ (List.mem_of_getLast? hlast)
    rw [hfrom] at hin
    exact hall.skipTo hasc.ordered (List.mem_filter.mp hin).1

theorem Keeps.stored_eq (h : s.Keeps start lines p) : stored s.lines.source.fetcher = lines := by
  rcases h.coming with ⟨-, hlines⟩ | ⟨line, more, -, hlines⟩
  · exact hlines.pages.stored_eq
  · exact hlines.pages.stored_eq

theorem Keeps.isLog (h : s.Keeps start lines p) : IsLog lines := by
  rcases h.coming with ⟨-, hlines⟩ | ⟨line, more, -, hlines⟩
  · exact hlines.pages.isLog
  · exact hlines.pages.isLog

/-- What can happen while a stream is not read: its reader looks ahead, or lines of higher ids are
appended to the log of the backend. -/
inductive Wait : ByteStream (PagedSource φ) → ByteStream (PagedSource φ) → Prop
  | available (s : ByteStream (PagedSource φ)) : Wait s s.available.2
  | append (s : ByteStream (PagedSource φ)) (fetcher : φ) (more : List LogLine)
      (hstored : stored fetcher = stored s.lines.source.fetcher ++ more)
      (hlog : IsLog (stored fetcher)) : Wait s (s.onBackend fetcher)

/-- The lines over which a stream reads. -/
def logFrom (start : LineId) (s : ByteStream (PagedSource φ)) : List LogLine :=
  fromId start (stored s.lines.source.fetcher)

variable {t : ByteStream (PagedSource φ)}

theorem quiet_of_wait (h : Wait s t) (hq : t.lines.source.cursor.tripped = none) :
    s.lines.source.cursor.tripped = none := by
  cases h with
  | available => exact tripped_of_available hq
  | append => exact hq

theorem logFrom_read (start : LineId) (s : ByteStream (PagedSource φ)) (n : Nat) :
    (s.read n).2.logFrom start = s.logFrom start := by
  rcases s.lines_read n with h | h
  · rw [logFrom, h, logFrom]
  · rw [logFrom, h, nextLine_source, stored_hasNext, logFrom]

theorem logFrom_jump (start : LineId) (s : ByteStream (PagedSource φ)) (target : UInt64)
    (point : ResumePoint) : (s.jump target point).logFrom start = s.logFrom start := by
  rw [logFrom, ByteStream.jump]
  cases point.after <;> rfl

theorem logFrom_wait (start : LineId) (h : Wait s t) :
    ∃ more, t.logFrom start = s.logFrom start ++ more := by
  cases h with
  | available =>
    refine ⟨[], ?_⟩
    rw [List.append_nil]
    rcases s.lines_available with h | h
    · rw [logFrom, h, logFrom]
    · rw [logFrom, h, stored_hasNext, logFrom]
  | append fetcher more hstored hlog =>
    refine ⟨fromId start more, ?_⟩
    change fromId start (stored fetcher) = _
    rw [hstored, fromId_append, logFrom]

theorem Keeps.wait (h : s.Keeps start lines p) (hfrom : log = fromId start lines) (hwait : Wait s t)
    (hq : t.lines.source.cursor.tripped = none) :
    ∃ lines' log', log' = fromId start lines' ∧ ∃ q : Place log', t.Keeps start lines' q ∧
      q.offset = p.offset ∧ q.into = p.into ∧ q.point = p.point ∧ t.rest = s.rest := by
  cases hwait with
  | available =>
    obtain ⟨hkeeps, hrest⟩ := h.available hq
    exact ⟨lines, log, hfrom, p, hkeeps, rfl, rfl, rfl, hrest⟩
  | append fetcher more hstored hlog =>
    rw [h.stored_eq] at hstored
    refine ⟨lines ++ more, log ++ fromId start more, by rw [hfrom, fromId_append],
      p.extend (fromId start more), h.append hstored (hstored ▸ hlog), rfl, rfl, rfl, rfl⟩

theorem Strayed.wait (h : s.Strayed p) (hfrom : log = s.logFrom start) (hwait : Wait s t) :
    ∃ log', log' = t.logFrom start ∧ ∃ q : Place log', t.Strayed q ∧
      q.offset = p.offset ∧ q.into = p.into ∧ q.point = p.point := by
  cases hwait with
  | available =>
    have hsame : s.available.2.lines = s.lines := by
      rw [available_of_idle h.isOpen h.rest, h.ended.hasNext]
    refine ⟨log, ?_, p, h.available, rfl, rfl, rfl⟩
    rw [hfrom, logFrom, logFrom, hsame]
  | append fetcher more hstored hlog =>
    refine ⟨log ++ fromId start more, ?_, p.extend _,
      ⟨⟨h.ended.buffer, h.ended.notOpened, h.ended.isOpen⟩, h.bytesRead, h.lastLineId, h.rest, h.discard⟩,
      rfl, rfl, rfl⟩
    change _ = fromId start (stored fetcher)
    rw [hstored, fromId_append, hfrom, logFrom]

end ByteStream

end RunLog
