import RunLog.Proofs.Cursors
import RunLog.Proofs.Position
import RunLog.Proofs.Rendering
import RunLog.Proofs.Room

namespace RunLog

namespace LineSequence

variable {σ : Type} [PageSource σ] {seq : LineSequence σ} {lines : List LogLine}

/-- An open sequence that gives these lines, and no error. -/
structure Gives (seq : LineSequence σ) (lines : List LogLine) : Prop where
  isOpen : seq.isClosed = false
  lines : seq.drain.1 = lines
  errors : seq.drain.2.1 = []

theorem Gives.nextLine (h : seq.Gives lines) :
    seq.nextLine.1 = .ok lines.head? ∧ seq.nextLine.2.Gives lines.tail := by
  have hopen := seq.isClosed_nextLine.trans h.isOpen
  have hlines := h.lines
  have herrors := h.errors
  cases hnext : seq.nextLine.1 with
  | error e =>
    rw [drain_of_error h.isOpen hnext] at herrors
    exact nomatch herrors
  | ok next =>
    cases next with
    | none =>
      have hafter := drain_nextLine_of_none hnext
      rw [drain_of_none h.isOpen hnext] at hlines
      subst hlines
      exact ⟨rfl, hopen, congrArg Prod.fst hafter, congrArg (·.2.1) hafter⟩
    | some line =>
      rw [drain_of_line h.isOpen hnext] at hlines herrors
      subst hlines
      exact ⟨rfl, hopen, rfl, herrors⟩

/-- A sequence over a source that no bound ends gives the lines of its pages. -/
theorem gives_of_exhausted {source : σ} (hend : (PageSource.drain source).2.1 = .ok .exhausted)
    (hlines : (PageSource.drain source).1.flatMap Page.lines = lines) (marker : Bool) :
    Gives { source, marker } lines := by
  obtain ⟨hall, herrors⟩ := drain_opened source marker none
  rw [hend] at hall herrors
  exact ⟨rfl, hall.trans ((List.append_nil _).trans hlines), herrors⟩

section Paged

variable {φ : Type} [PageFetcher φ] {seq : LineSequence (PagedSource φ)}

theorem tripped_of_nextItem (h : seq.nextItem.2.source.cursor.tripped = none) :
    seq.source.cursor.tripped = none := by
  cases hc : seq.isClosed with
  | true => rwa [nextItem, if_pos hc] at h
  | false =>
    rw [nextItem_snd hc, nextLine_source] at h
    exact tripped_of_hasNext h

/-- A breaker that has tripped stays so while the items of a sequence are taken. -/
theorem tripped_of_drain (h : seq.drain.2.2.source.cursor.tripped = none) :
    seq.nextItem.2.source.cursor.tripped = none := by
  -- By induction on the items that are taken.
  fun_induction drain seq with
  | case1 seq step hnone => exact h
  | case2 seq step line hline lines rest hdrain ih =>
    exact tripped_of_nextItem (ih (by rw [hdrain]; exact h))
  | case3 seq step e he lines errors rest hdrain ih =>
    exact tripped_of_nextItem (ih (by rw [hdrain]; exact h))

theorem roomy_nextItem [LogBackend φ] {stored : List LogLine} (h : seq.source.Roomy stored) :
    seq.nextItem.2.source.Roomy stored := by
  cases hc : seq.isClosed with
  | true => rwa [nextItem, if_pos hc]
  | false =>
    rw [nextItem_snd hc, nextLine_source]
    exact roomy_hasNext h

theorem roomy_drain [LogBackend φ] {stored : List LogLine} (h : seq.source.Roomy stored) :
    seq.drain.2.2.source.Roomy stored := by
  fun_induction drain seq with
  | case1 seq step hnone => exact roomy_nextItem h
  | case2 seq step line hline lines rest hdrain ih =>
    rw [hdrain] at ih
    exact ih (roomy_nextItem h)
  | case3 seq step e he lines errors rest hdrain ih =>
    rw [hdrain] at ih
    exact ih (roomy_nextItem h)

/-- A sequence over a log gives what it has still to give, if no bound ends it. -/
theorem Yields.gives [LogBackend φ] {stored : List LogLine} (h : Yields True stored seq lines)
    (ho : seq.isClosed = false) (hq : seq.drain.2.2.source.cursor.tripped = none) :
    seq.Gives lines := by
  induction lines generalizing seq with
  | nil =>
    rcases h.nextLine ho (nextItem_snd ho ▸ tripped_of_drain hq) with ⟨hnone, -⟩ | ⟨-, hsure⟩
    · have hend := drain_of_none ho hnone
      exact ⟨ho, congrArg Prod.fst hend, congrArg (·.2.1) hend⟩
    · exact absurd trivial hsure
  | cons line lines ih =>
    rcases h.nextLine ho (nextItem_snd ho ▸ tripped_of_drain hq) with ⟨hline, hy⟩ | ⟨-, hsure⟩
    · have hall := drain_of_line ho hline
      rw [hall] at hq
      have hmore := ih hy ((isClosed_nextLine seq).trans ho) hq
      refine ⟨ho, ?_, ?_⟩
      · rw [hall, hmore.lines]
      · rw [hall]
        exact hmore.errors
    · exact absurd trivial hsure

end Paged

end LineSequence

/-- The bytes of some lines, without the first `k` bytes of the first of them. -/
def passingOver (k : Nat) : List LogLine → List UInt8
  | [] => []
  | line :: more => line.bytes.drop k ++ render more

theorem passingOver_zero (lines : List LogLine) : passingOver 0 lines = render lines := by
  cases lines <;> rfl

namespace ByteStream

variable {σ : Type} [PageSource σ] {log : List LogLine} {s : ByteStream σ} {p : Place log}

/-- A stream that knows its place in a log, and brings the lines from there on. -/
structure Follows (s : ByteStream σ) (p : Place log) : Prop where
  marked : s.MarkedAt p
  coming : s.rest = [] ∧ s.lines.Gives p.ahead ∨
    ∃ line more, s.Begun p line more ∧ s.lines.Gives more

theorem Follows.isOpen (h : s.Follows p) : s.lines.isClosed = false := by
  rcases h.coming with ⟨-, hgives⟩ | ⟨line, more, -, hgives⟩
  · exact hgives.isOpen
  · exact hgives.isOpen

/-- What is delivered of the current line moves the stream on along the log. -/
theorem Begun.follows {line : LogLine} {more : List LogLine} (h : s.Begun p line more)
    (hm : s.MarkedAt p) (hgives : s.lines.Gives more) (hsize : (render log).length < UInt64.size)
    (n : Nat) :
    ∃ q : Place log, (s.deliver n).2.Follows q ∧ q.offset = p.offset + (p.portion n).length := by
  obtain ⟨q, hmarked, hoffset, hcoming⟩ := h.deliver hm hsize n
  rw [h.deliver_eq n] at hoffset
  refine ⟨q, ⟨hmarked, ?_⟩, hoffset⟩
  rcases hcoming with ⟨hrest, hahead⟩ | hbegun
  · exact .inl ⟨hrest, hahead ▸ hgives⟩
  · exact .inr ⟨line, more, hbegun, hgives⟩

/-- A read delivers the portion at the place, and the stream follows on behind it. -/
theorem Follows.read (h : s.Follows p) (hsize : (render log).length < UInt64.size) (n : Nat) :
    ∃ q : Place log, (s.read n).1 = .ok (p.portion n) ∧ (s.read n).2.Follows q ∧
      q.offset = p.offset + (p.portion n).length := by
  by_cases hn : n = 0
  · have hnone : p.portion n = [] := by
      rw [hn, Place.portion]
      split <;> rfl
    rw [hnone, hn, read_zero h.isOpen]
    exact ⟨p, rfl, h, rfl⟩
  rcases h.coming with ⟨hrest, hgives⟩ | ⟨line, more, hbegun, hgives⟩
  · obtain ⟨hline, hmore⟩ := hgives.nextLine
    rw [read_of_idle h.isOpen hn hrest]
    cases hahead : p.ahead with
    | nil =>
      -- No line is ahead, so the place is the end of the log.
      rw [hahead] at hline hmore
      rw [hline]
      have hinto := Place.into_of_ahead_eq_nil hahead
      rw [(p.portion_eq_nil_iff hn).mpr hahead]
      refine ⟨p, rfl, ⟨⟨h.marked.bytesRead, h.marked.lastLineId, hinto.symm⟩, ?_⟩, rfl⟩
      rw [hahead]
      exact .inl ⟨rfl, hmore⟩
    | cons line more =>
      rw [hahead] at hline hmore
      rw [hline]
      obtain ⟨hmarked, hbegun⟩ := h.marked.loaded hrest hahead s.lines.nextLine.2
      obtain ⟨q, hfollows, hoffset⟩ := hbegun.follows hmarked hmore hsize n
      exact ⟨q, congrArg Except.ok (hbegun.deliver_eq n), hfollows, hoffset⟩
  · rw [read_of_pending h.isOpen hn hbegun.rest_ne_nil]
    obtain ⟨q, hfollows, hoffset⟩ := hbegun.follows h.marked hgives hsize n
    exact ⟨q, congrArg Except.ok (hbegun.deliver_eq n), hfollows, hoffset⟩

/-- Reads deliver the log from the place on, as far as they reach. -/
theorem Follows.reads (h : s.Follows p) (hsize : (render log).length < UInt64.size)
    (sizes : List Nat) :
    (s.reads sizes).2.1 = none ∧ ∃ q : Place log, (s.reads sizes).2.2.Follows q ∧
      q.offset = p.offset + (s.reads sizes).1.length ∧
      (s.reads sizes).1 <+: (render log).drop p.offset := by
  induction sizes generalizing s p with
  | nil => exact ⟨rfl, p, h, rfl, List.nil_prefix⟩
  | cons n sizes ih =>
    obtain ⟨q, hread, hfollows, hoffset⟩ := h.read hsize n
    obtain ⟨hnone, r, hlast, hend, hprefix⟩ := ih hfollows
    rw [reads_cons hread]
    refine ⟨hnone, r, hlast, ?_, ?_⟩
    · rw [hend, hoffset, List.length_append, Nat.add_assoc]
    · exact prefix_drop_append (p.portion_prefix n) (hoffset ▸ hprefix)

theorem Follows.delivers (h : s.Follows p) (hsize : (render log).length < UInt64.size) :
    s.Delivers ((render log).drop p.offset) := by
  intro sizes
  obtain ⟨hnone, q, hfollows, hoffset, hprefix⟩ := h.reads hsize sizes
  refine ⟨hnone, hprefix, ?_⟩
  intro n hn
  obtain ⟨-, hread, -⟩ := hfollows.read hsize n
  rw [hread, Except.ok.injEq, q.portion_eq_nil_iff hn, ← q.offset_eq_length_iff]
  -- The end is reached exactly when as many bytes came as there are.
  have hle := p.offset_le
  constructor
  · intro hend
    apply hprefix.eq_of_length
    rw [List.length_drop]
    omega
  · intro hall
    rw [hoffset, hall, List.length_drop]
    omega

section Gives

variable {lines : List LogLine}

/-- Whatever is to be passed over, a read takes its bytes off the front of what is to come. -/
theorem read_of_gives (h : s.lines.Gives lines) (n : Nat) :
    ∃ data more, (s.read n).1 = .ok data ∧ (s.read n).2.lines.Gives more ∧
      s.rest ++ passingOver s.discard lines =
        data ++ ((s.read n).2.rest ++ passingOver (s.read n).2.discard more) := by
  by_cases hn : n = 0
  · rw [hn, read_zero h.isOpen]
    exact ⟨[], lines, rfl, h, rfl⟩
  by_cases hp : s.rest = []
  · obtain ⟨hline, hmore⟩ := h.nextLine
    rw [read_of_idle h.isOpen hn hp, hline, hp]
    cases lines with
    | nil => exact ⟨[], [], rfl, hmore, rfl⟩
    | cons line lines =>
      have hall := (s.loaded s.lines.nextLine.2 line).deliver_rest n
      refine ⟨_, lines, rfl, hmore, ?_⟩
      -- The line that comes is the one of which bytes are passed over.
      change line.bytes.drop s.discard ++ render lines = _
      rw [← List.append_assoc, show line.bytes.drop s.discard = _ from hall.symm]
      exact congrArg (_ ++ ·) (passingOver_zero lines).symm
  · rw [read_of_pending h.isOpen hn hp]
    refine ⟨_, lines, rfl, h, ?_⟩
    rw [← List.append_assoc, s.deliver_rest n]
    rfl

/-- A read with no bytes at hand delivers bytes of the next line. -/
theorem fst_read_of_gives (h : s.lines.Gives lines) (hr : s.rest = []) {n : Nat} (hn : n ≠ 0) :
    (s.read n).1 = .ok (match lines with
      | [] => []
      | line :: _ => (line.bytes.drop s.discard).take n) := by
  rw [read_of_idle h.isOpen hn hr, h.nextLine.1]
  cases lines <;> rfl

/-- Reads deliver a first part of what is to come, less what is passed over. -/
theorem reads_of_gives (h : s.lines.Gives lines) (sizes : List Nat) :
    (s.reads sizes).2.1 = none ∧ (s.reads sizes).1 <+: s.rest ++ passingOver s.discard lines := by
  induction sizes generalizing s lines with
  | nil => exact ⟨rfl, List.nil_prefix⟩
  | cons n sizes ih =>
    obtain ⟨data, more, hread, hgives, hall⟩ := read_of_gives h n
    obtain ⟨hnone, hprefix⟩ := ih hgives
    rw [reads_cons hread, hall]
    exact ⟨hnone, (List.prefix_append_right_inj data).mpr hprefix⟩

/-- With no line begun and nothing to pass over, a stream delivers the lines that are to come. -/
theorem delivers_of_gives (h : s.lines.Gives lines) (hr : s.rest = []) (hd : s.discard = 0) :
    s.Delivers (render lines) := by
  have hclean : s.Clean := ⟨h.isOpen, h.errors, hd⟩
  have hdelivers := hclean.delivers
  rwa [upcoming, hr, List.nil_append, h.lines] at hdelivers

end Gives

/-- The point that a close records is found at the offset at which it was made. -/
theorem lookup_close_of_point (ho : s.lines.isClosed = false) {point : ResumePoint}
    (hpoint : s.resumePoint? = some point) {cache : CursorCache} {handle : Handle}
    (hcurrent : cache.IsCurrent handle) (hcache : cache.WellFormed) :
    OffsetMapper.resumePoint? (s.close (⟨cache, some handle⟩ : CursorView)).2 s.bytesRead =
      some point := by
  have hget := hcurrent.get?_record hcache s.bytesRead s.bytesRead point
  rw [if_pos rfl, ← (hcurrent.record handle s.bytesRead point).lookup] at hget
  rw [close_of_open ho, hpoint]
  exact hget

/-- What a close leaves behind for the offset at which it was made: the point of the place, or nothing
if that is the begin. -/
theorem Follows.lookup_close (h : s.Follows p) {cache : CursorCache} {handle : Handle}
    (hcurrent : cache.IsCurrent handle) (hcache : cache.WellFormed)
    (hnew : cache.get? handle.key 0 = none) :
    let view : CursorView := ⟨cache, some handle⟩
    OffsetMapper.resumePoint? (s.close view).2 s.bytesRead = some p.point ∨
      p.offset = 0 ∧ OffsetMapper.resumePoint? (s.close view).2 s.bytesRead = none := by
  intro view
  rcases h.marked.resumePoint? with hpoint | ⟨hnone, hzero⟩
  · left
    exact lookup_close_of_point h.isOpen hpoint hcurrent hcache
  · right
    have hbegin : s.bytesRead = 0 := UInt64.toNat_inj.mp (h.marked.bytesRead.trans hzero)
    rw [close_of_open h.isOpen, hnone, hbegin]
    exact ⟨hzero, (hcurrent.lookup 0).trans hnew⟩

section Resumed

/-- A stream that has skipped so many bytes, after another one over the same key was closed. -/
def skipBehind (ended second : ByteStream σ) (cache : CursorCache) (key : StreamKey) (n : UInt64) :
    ByteStream σ :=
  let view : CursorView := ⟨(cache.hold key).2, some (cache.hold key).1⟩
  (second.skip (ended.close view).2 n).2

/-- The second of two streams. The first one, over its own lines, read with these sizes and was closed,
and this one has skipped what that one delivered. -/
def resumedFrom (first second : LineSequence σ) (cache : CursorCache) (key : StreamKey)
    (sizes : List Nat) : ByteStream σ :=
  let head := (ofLines first).reads sizes
  head.2.2.skipBehind (ofLines second) cache key (UInt64.ofNat head.1.length)

/-- The second of two streams over the same lines. -/
def resumed (lines : LineSequence σ) (cache : CursorCache) (key : StreamKey) (sizes : List Nat) :
    ByteStream σ :=
  resumedFrom lines lines cache key sizes

variable {first second lines : LineSequence σ} {cache : CursorCache} {key : StreamKey}
  {sizes : List Nat}

theorem follows_ofLines (h : lines.Gives log) : (ofLines lines).Follows (.before [] log rfl) :=
  ⟨⟨rfl, rfl, rfl⟩, .inl ⟨rfl, h⟩⟩

/-- A single read of a fresh stream delivers bytes of the first line. -/
theorem reads_singleton (h : lines.Gives log) (hsize : (render log).length < UInt64.size) (n : Nat) :
    ((ofLines lines).reads [n]).1 = (Place.before [] log rfl).portion n := by
  obtain ⟨-, hread, -⟩ := (follows_ofLines h).read hsize n
  rw [reads_cons hread]
  exact List.append_nil _

/-- The second stream jumps to the point of the place where the first one stopped, unless that one
stopped at the begin. -/
theorem resumedFrom_eq (h : first.Gives log) (ho : second.isClosed = false)
    (hsize : (render log).length < UInt64.size) (hcache : cache.WellFormed)
    (hnew : cache.get? key 0 = none) (hstop : ((ofLines first).reads sizes).1.length = p.offset) :
    resumedFrom first second cache key sizes =
        (ofLines second).jump (UInt64.ofNat p.offset) p.point ∨
      p.offset = 0 ∧ resumedFrom first second cache key sizes = ofLines second := by
  obtain ⟨-, r, hfollows, hoffset, -⟩ := (follows_ofLines h).reads hsize sizes
  have hbegin : (Place.before [] log rfl).offset = 0 := rfl
  obtain rfl : r = p := Place.eq_of_offset_eq (by omega)
  -- The offset skipped is the one under which the first stream was closed.
  have hbytes : ((ofLines first).reads sizes).2.2.bytesRead = UInt64.ofNat r.offset := by
    apply UInt64.toNat_inj.mp
    rw [hfollows.marked.bytesRead, UInt64.toNat_ofNat_of_lt' (Nat.lt_of_le_of_lt r.offset_le hsize)]
  have hlookup := hfollows.lookup_close (cache.isCurrent_hold key) (hcache.hold key)
    (by rw [CursorCache.key_hold, CursorCache.get?_hold, hnew])
  have htarget : addOffset (ofLines second).bytesRead (UInt64.ofNat r.offset) =
      UInt64.ofNat r.offset := addOffset_zero _
  rw [hbytes] at hlookup
  rw [resumedFrom, skipBehind, skip_of_open ho, hstop, htarget]
  rcases hlookup with hpoint | ⟨hzero, hnone⟩
  · left
    rw [hpoint]
  · right
    rw [hnone]
    exact ⟨hzero, rfl⟩

theorem resumed_eq (h : lines.Gives log) (hsize : (render log).length < UInt64.size)
    (hcache : cache.WellFormed) (hnew : cache.get? key 0 = none)
    (hstop : ((ofLines lines).reads sizes).1.length = p.offset) :
    resumed lines cache key sizes = (ofLines lines).jump (UInt64.ofNat p.offset) p.point ∨
      p.offset = 0 ∧ resumed lines cache key sizes = ofLines lines :=
  resumedFrom_eq h h.isOpen hsize hcache hnew hstop

/-- Where the lines behind the last one that was passed are those ahead, the second stream goes on with
the log. -/
theorem resumed_delivers_drop (h : lines.Gives log) (hsize : (render log).length < UInt64.size)
    (hcache : cache.WellFormed) (hnew : cache.get? key 0 = none)
    (hstop : ((ofLines lines).reads sizes).1.length = p.offset)
    (hskip : ∀ id, lastId p.passed = some id → (lines.skipTo id).Gives p.ahead) :
    (resumed lines cache key sizes).Delivers ((render log).drop p.offset) := by
  rcases resumed_eq h hsize hcache hnew hstop with hjump | ⟨hzero, hsame⟩
  · have hoffset : (UInt64.ofNat p.offset).toNat = p.offset :=
      UInt64.toNat_ofNat_of_lt' (Nat.lt_of_le_of_lt p.offset_le hsize)
    have hmarked := (ofLines lines).markedAt_jump hsize hoffset
    rw [hjump]
    refine Follows.delivers ⟨hmarked, .inl ⟨rfl, ?_⟩⟩ hsize
    cases hid : lastId p.passed with
    | none =>
      -- Nothing was passed, so the whole log is ahead.
      have hpassed : p.passed = [] := by simpa [lastId] using hid
      rw [show ((ofLines lines).jump (UInt64.ofNat p.offset) p.point).lines = lines by
        simp [jump, Place.point, hid, ofLines], Place.ahead_of_passed_eq_nil hpassed]
      exact h
    | some id =>
      rw [show ((ofLines lines).jump (UInt64.ofNat p.offset) p.point).lines = lines.skipTo id by
        simp [jump, Place.point, hid, ofLines]]
      exact hskip id hid
  · rw [hsame, hzero]
    exact (follows_ofLines h).delivers hsize

/-- From a line end the second stream delivers whatever lines come behind the last one passed. -/
theorem resumed_delivers_of_lineEnd (h : lines.Gives log) (hsize : (render log).length < UInt64.size)
    (hcache : cache.WellFormed) (hnew : cache.get? key 0 = none)
    (hstop : ((ofLines lines).reads sizes).1.length = p.offset) {id : LineId}
    (hid : lastId p.passed = some id) (hinto : p.into = 0) {others : List LogLine}
    (hskip : (lines.skipTo id).Gives others) :
    (resumed lines cache key sizes).Delivers (render others) := by
  rcases resumed_eq h hsize hcache hnew hstop with hjump | ⟨hzero, -⟩
  · have hlines : ((ofLines lines).jump (UInt64.ofNat p.offset) p.point).lines = lines.skipTo id := by
      simp [jump, Place.point, hid, ofLines]
    rw [hjump]
    refine delivers_of_gives (hlines ▸ hskip) rfl ?_
    change (UInt64.ofNat p.into).toNat = 0
    rw [hinto]
    rfl
  · -- A line was passed, so the stop is not at the begin.
    rw [(Place.passed_of_offset_eq_zero hzero).1, lastId_nil] at hid
    cases hid

end Resumed

end ByteStream

end RunLog
