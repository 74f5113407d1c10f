import RunLog.Proofs.Endings
import RunLog.Proofs.Portions
import RunLog.Proofs.Sinks

namespace RunLog

/-- What a copy brings of some lines when the first `k` bytes are to be passed over: nothing if these
are the whole first line, since a read without a byte ends it. -/
def copiedPast (k : Nat) : List LogLine → List UInt8
  | [] => []
  | line :: more => if line.bytes.length ≤ k then [] else passingOver k (line :: more)

namespace ByteStream

section Collecting

variable {σ : Type} [PageSource σ] {s : ByteStream σ} {bytes : List UInt8} {n : Nat}

/-- A read of what a stream delivers takes a part off its front, which is empty only at the end. -/
theorem Delivers.read (h : s.Delivers bytes) (hn : n ≠ 0) :
    ∃ data more, (s.read n).1 = .ok data ∧ bytes = data ++ more ∧ (s.read n).2.Delivers more ∧
      (data = [] ↔ bytes = []) := by
  cases hread : (s.read n).1 with
  | error e =>
    have hfails : s.reads [n] = ([], some e, (s.read n).2) := by
      rw [reads, show s.read n = (.error e, (s.read n).2) from Prod.ext hread rfl]
    have hnone := (h [n]).1
    rw [hfails] at hnone
    simp at hnone
  | ok data =>
    have hcons := reads_cons hread
    obtain ⟨-, hprefix, -⟩ := h [n]
    rw [hcons [], reads, List.append_nil] at hprefix
    obtain ⟨more, rfl⟩ := hprefix
    refine ⟨data, more, rfl, rfl, ?_, ?_⟩
    · intro sizes
      obtain ⟨hnone, hpart, hend⟩ := h (n :: sizes)
      rw [hcons sizes] at hnone hpart hend
      refine ⟨hnone, (List.prefix_append_right_inj data).mp hpart, fun m hm => ?_⟩
      exact (hend m hm).trans (List.append_cancel_left_eq data _ more).to_iff
    · have hfirst := (h []).2.2 n hn
      rw [reads, hread, Except.ok.injEq] at hfirst
      rw [hfirst]
      exact eq_comm

/-- A stream counts the bytes that a read delivers. -/
theorem bytesRead_read {data : List UInt8} (h : (s.read n).1 = .ok data) :
    (s.read n).2.bytesRead = s.bytesRead + UInt64.ofNat data.length := by
  have hnone : s.bytesRead = s.bytesRead + UInt64.ofNat ([] : List UInt8).length :=
    (UInt64.add_zero _).symm
  cases hc : s.lines.isClosed with
  | true =>
    rw [read_of_closed hc] at h
    exact nomatch h
  | false =>
    by_cases hn : n = 0
    · rw [hn, read_zero hc] at h ⊢
      obtain rfl : [] = data := Except.ok.inj h
      exact hnone
    by_cases hr : s.rest = []
    · rw [read_of_idle hc hn hr] at h ⊢
      generalize s.lines.nextLine.1 = next at h
      obtain e | _ | line := next
      · exact nomatch h
      · obtain rfl : [] = data := Except.ok.inj h
        exact hnone
      · obtain rfl : _ = data := Except.ok.inj h
        rfl
    · rw [read_of_pending hc hn hr] at h ⊢
      obtain rfl : _ = data := Except.ok.inj h
      rfl

theorem ofNat_length_append (xs ys : List UInt8) :
    UInt64.ofNat xs.length + UInt64.ofNat ys.length = UInt64.ofNat (xs ++ ys).length := by
  rw [List.length_append, UInt64.ofNat_add]

/-- Reading a stream to its end brings what it delivers, and the stream has counted it. -/
theorem collect_of_delivers {s : ByteStream σ} {bytes : List UInt8} (h : s.Delivers bytes) :
    (s.collect none).1 = bytes ∧ (s.collect none).2.1 = none ∧
      (s.collect none).2.2.bytesRead = s.bytesRead + UInt64.ofNat bytes.length := by
  obtain ⟨data, more, hread, hbytes, hmore, hnil⟩ := h.read (n := chunkSize) (by decide)
  have hcount := bytesRead_read hread
  rw [collect_eq, hread]
  cases data with
  | nil =>
    obtain rfl : bytes = [] := hnil.mp rfl
    exact ⟨rfl, rfl, hcount⟩
  | cons byte data =>
    have hshorter : more.length < bytes.length := by
      rw [hbytes, List.length_append, List.length_cons]
      omega
    obtain ⟨hall, hnone, hlast⟩ := collect_of_delivers hmore
    dsimp only
    refine ⟨?_, hnone, ?_⟩
    · rw [hall, hbytes]
    · rw [hlast, hcount, hbytes, UInt64.add_assoc, ofNat_length_append]
termination_by bytes.length

/-- A read that gets no byte ends the reading, whatever may follow. -/
theorem collect_of_empty (h : (s.read chunkSize).1 = .ok []) :
    s.collect none = ([], none, (s.read chunkSize).2) := by
  rw [collect_eq, h]

/-- The lines that come before the end of an open sequence do not depend on how many were read. -/
theorem drain_read (ho : s.lines.isClosed = false) (n : Nat) :
    (s.read n).2.lines.drain.2.2 = s.lines.drain.2.2 := by
  rcases s.lines_read n with hl | hl
  · rw [hl]
  · rw [hl]
    cases hline : s.lines.nextLine.1 with
    | error e => rw [LineSequence.drain_of_error ho hline]
    | ok next =>
      cases next with
      | none =>
        rw [LineSequence.drain_nextLine_of_none hline, LineSequence.drain_of_none ho hline]
      | some line => rw [LineSequence.drain_of_line ho hline]

theorem drain_collect {s : ByteStream σ} (ho : s.lines.isClosed = false) :
    (s.collect none).2.2.lines.drain.2.2 = s.lines.drain.2.2 := by
  have hnext := drain_read ho chunkSize
  have hopen := (s.isClosed_read chunkSize).trans ho
  rw [collect_eq]
  split
  · exact hnext
  · exact hnext
  · next byte bytes hread =>
    have hless := remaining_read_lt hread
    exact (drain_collect hopen).trans hnext
termination_by s.remaining
decreasing_by exact hless

/-- With no line to be passed over to its end, a stream delivers what is to come, less what is passed
over. -/
theorem delivers_of_fits {lines : List LogLine} (h : s.lines.Gives lines) (hfits : s.Fits) :
    s.Delivers (s.rest ++ passingOver s.discard lines) := by
  intro sizes
  induction sizes generalizing s lines with
  | nil =>
    refine ⟨rfl, List.nil_prefix, fun n hn => ?_⟩
    obtain ⟨data, more, hread, -, hall⟩ := read_of_gives h n
    change (s.read n).1 = .ok [] ↔ [] = s.rest ++ passingOver s.discard lines
    rw [read_eq_nil_iff h.isOpen hn, or_iff_left hfits.not_swallows, eq_comm, List.append_eq_nil_iff]
    refine ⟨fun hend => ⟨hend.rest, ?_⟩, fun hnil => ⟨hnil.1, ?_⟩⟩
    · have hnone := LineSequence.nextLine_eq_none_iff.mpr hend.lines
      rw [h.nextLine.1] at hnone
      cases lines with
      | nil => rfl
      | cons line more => exact nomatch hnone
    · apply LineSequence.nextLine_eq_none_iff.mp
      rw [h.nextLine.1]
      cases lines with
      | nil => rfl
      | cons line more =>
        -- A line of which bytes are left is not passed over as a whole.
        have hlt := hfits line h.nextLine.1
        have hdrop := (List.append_eq_nil_iff.mp hnil.2).1
        rw [List.drop_eq_nil_iff] at hdrop
        omega
  | cons n sizes ih =>
    obtain ⟨data, more, hread, hgives, hall⟩ := read_of_gives h n
    obtain ⟨hnone, hprefix, hend⟩ := ih hgives (hfits.read h.isOpen n)
    rw [reads_cons hread, hall]
    refine ⟨hnone, (List.prefix_append_right_inj data).mpr hprefix, fun m hm => ?_⟩
    exact (hend m hm).trans (List.append_cancel_left_eq data _ _).to_iff.symm

/-- Reading on behind a jump into a line that is lost brings the lines behind it, less what is passed
over of the first of them. -/
theorem collect_of_gives {lines : List LogLine} (h : s.lines.Gives lines) (hr : s.rest = []) :
    (s.collect none).1 = copiedPast s.discard lines ∧ (s.collect none).2.1 = none ∧
      (s.collect none).2.2.bytesRead =
        s.bytesRead + UInt64.ofNat (copiedPast s.discard lines).length := by
  by_cases hswallows : s.Swallows
  · obtain ⟨-, line, hline, hle⟩ := hswallows
    obtain ⟨more, rfl⟩ : ∃ more, lines = line :: more := by
      rw [h.nextLine.1, Except.ok.injEq] at hline
      exact List.head?_eq_some_iff.mp hline
    have hread : (s.read chunkSize).1 = .ok [] := by
      rw [read_eq_nil_iff h.isOpen (by decide)]
      exact .inr ⟨hr, line, hline, hle⟩
    rw [collect_of_empty hread, copiedPast, if_pos hle]
    exact ⟨rfl, rfl, bytesRead_read hread⟩
  · have hfits : s.Fits := by
      intro line hline
      exact Nat.lt_of_not_le fun hle => hswallows ⟨hr, line, hline, hle⟩
    have hcopied : copiedPast s.discard lines = s.rest ++ passingOver s.discard lines := by
      rw [hr, List.nil_append]
      cases lines with
      | nil => rfl
      | cons line more =>
        rw [copiedPast, if_neg (Nat.not_le_of_lt (hfits line h.nextLine.1))]
    rw [hcopied]
    exact collect_of_delivers (delivers_of_fits h hfits)

end Collecting

theorem isClosed_answerAll {σ : Type} [PageSupply σ] (s : ByteStream σ) (calls : List ReaderCall) :
    (s.answerAll calls).2.lines.isClosed = s.lines.isClosed := by
  induction calls generalizing s with
  | nil => rfl
  | cons call calls ih => exact (ih (s.after call)).trans (s.isClosed_after call)

section InUse

open LogBackend

variable {φ : Type} [PageFetcher φ] {s : ByteStream (PagedSource φ)}

theorem quiet_of_answerAll (calls : List ReaderCall)
    (hq : (s.answerAll calls).2.lines.source.cursor.tripped = none) :
    s.lines.source.cursor.tripped = none := by
  induction calls generalizing s with
  | nil => exact hq
  | cons call calls ih => exact tripped_of_after call (ih hq)

variable [LogBackend φ] {stored log : List LogLine} {p : Place log}

theorem Stands.after (h : s.Stands True stored p) (hsize : (render log).length < UInt64.size)
    (call : ReaderCall) (hq : (s.after call).lines.source.cursor.tripped = none) :
    ∃ q : Place log, (s.after call).Stands True stored q ∧
      q.offset = p.offset + (s.answer call).bytes.length ∧
      (s.answer call).bytes <+: (render log).drop p.offset := by
  cases call with
  | read n =>
    rcases h.read hsize n hq with ⟨q, data, hread, hstands, hoffset, hpart, -⟩ | ⟨-, hsure, -⟩
    · rw [answer, hread]
      exact ⟨q, hstands, hoffset, hpart⟩
    · exact absurd trivial hsure
  | available =>
    rcases h.available hq with ⟨hmore, hstands, -⟩ | ⟨-, hsure, -⟩
    · rw [answer, hmore]
      exact ⟨p, hstands, rfl, List.nil_prefix⟩
    · exact absurd trivial hsure

/-- Calls move a stream along the log by the bytes that they deliver. -/
theorem Stands.answerAll (h : s.Stands True stored p) (hsize : (render log).length < UInt64.size)
    (calls : List ReaderCall)
    (hq : (s.answerAll calls).2.lines.source.cursor.tripped = none) :
    ∃ q : Place log, (s.answerAll calls).2.Stands True stored q ∧
      q.offset = p.offset + (bytesOf (s.answerAll calls).1).length ∧
      bytesOf (s.answerAll calls).1 <+: (render log).drop p.offset := by
  induction calls generalizing s p with
  | nil => exact ⟨p, h, rfl, List.nil_prefix⟩
  | cons call calls ih =>
    obtain ⟨q, hstands, hoffset, hpart⟩ := h.after hsize call (quiet_of_answerAll calls hq)
    obtain ⟨r, hlast, hoffset', hpart'⟩ := ih hstands hq
    have hbytes : bytesOf (s.answerAll (call :: calls)).1 =
        (s.answer call).bytes ++ bytesOf ((s.after call).answerAll calls).1 := rfl
    rw [hbytes]
    refine ⟨r, hlast, ?_, prefix_drop_append hpart (hoffset ▸ hpart')⟩
    rw [hoffset', hoffset, List.length_append, Nat.add_assoc]

end InUse

end ByteStream

namespace ViewerLog

open ByteStream ByteSink

variable {σ : Type} [PageSource σ] {μ : Type} [OffsetMapper μ] {κ : Type} [ByteSink κ]

/-- The stream from which a copy reads, if the skip before it does not fail. -/
def skippedTo (log : ViewerLog σ) (cursors : μ) (offset : UInt64) : ByteStream σ :=
  if 0 < offset then (log.stream.skip cursors offset).2 else log.stream

theorem isClosed_skippedTo (log : ViewerLog σ) (cursors : μ) (offset : UInt64) :
    (log.skippedTo cursors offset).lines.isClosed = log.stream.lines.isClosed := by
  unfold skippedTo
  split
  · exact log.stream.isClosed_skip cursors offset
  · rfl

/-- Without a point at twice the offset that a stream has reached a copy does not move it. -/
theorem skippedTo_of_unknown {log : ViewerLog σ} (ho : log.stream.lines.isClosed = false)
    {cursors : μ} {offset : UInt64} (hbytes : log.stream.bytesRead = offset)
    (h : offset = 0 ∨ OffsetMapper.resumePoint? cursors (addOffset offset offset) = none) :
    log.skippedTo cursors offset = log.stream := by
  unfold skippedTo
  split
  · next hpos =>
    have hnone := h.resolve_left fun hzero => by simp [hzero] at hpos
    rw [skip_of_open ho, hbytes, hnone]
  · rfl

/-- A point at twice the offset that a stream has reached is where a copy goes. -/
theorem skippedTo_of_known {log : ViewerLog σ} (ho : log.stream.lines.isClosed = false)
    {cursors : μ} {offset : UInt64} (hbytes : log.stream.bytesRead = offset) (hne : offset ≠ 0)
    {point : ResumePoint}
    (h : OffsetMapper.resumePoint? cursors (addOffset offset offset) = some point) :
    log.skippedTo cursors offset = log.stream.jump (addOffset offset offset) point := by
  have hpos : 0 < offset := UInt64.pos_iff_ne_zero.mpr hne
  unfold skippedTo
  rw [if_pos hpos, skip_of_open ho, hbytes, h]

theorem copyOutcome_of_open {log : ViewerLog σ} (ho : log.stream.lines.isClosed = false)
    (cursors : μ) (offset : UInt64) :
    log.copyOutcome cursors offset =
      let collected := (log.skippedTo cursors offset).collect none
      (collected.1, match collected.2.1 with
        | some e => .error e
        | none => .ok collected.2.2.bytesRead, collected.2.2) := by
  have hskipped : (if 0 < offset then log.stream.skip cursors offset else (.ok 0, log.stream)) =
      (.ok (if 0 < offset then offset else 0), log.skippedTo cursors offset) := by
    unfold skippedTo
    split
    · rw [skip_of_open ho]
    · rfl
  rw [copyOutcome, hskipped]
  dsimp only
  generalize (log.skippedTo cursors offset).collect none = collected
  obtain ⟨bytes, failure, last⟩ := collected
  cases failure <;> rfl

/-- A copy with an open stream that brings all it reads without an error. -/
theorem writeTo_of_collect {log : ViewerLog σ} (ho : log.stream.lines.isClosed = false)
    {cursors : μ} {offset : UInt64} {sink : κ} (h : Accepting sink) {bytes : List UInt8}
    (hbytes : ((log.skippedTo cursors offset).collect none).1 = bytes)
    (hnone : ((log.skippedTo cursors offset).collect none).2.1 = none) :
    (log.writeTo cursors offset (⟨sink, []⟩ : RecordedSink κ)).1 =
        .ok ((log.skippedTo cursors offset).collect none).2.2.bytesRead ∧
      (log.writeTo cursors offset (⟨sink, []⟩ : RecordedSink κ)).2.2.taken = bytes := by
  obtain ⟨-, -, hanswer, -, -⟩ :=
    log.writeTo_of_accepting cursors offset (RecordedSink.accepting h [])
  have htaken := log.taken_writeTo cursors offset h
  rw [copyOutcome_of_open ho] at hanswer htaken
  dsimp only at hanswer htaken
  rw [hnone] at hanswer
  exact ⟨hanswer, htaken.trans hbytes⟩

/-- To take what is left behind a copy ends as it would have ended before. -/
theorem drain_writeTo {log : ViewerLog σ} (ho : log.stream.lines.isClosed = false) (cursors : μ)
    (offset : UInt64) {sink : κ} (h : Accepting sink) :
    (log.writeTo cursors offset sink).2.1.stream.lines.drain.2.2 =
      (log.skippedTo cursors offset).lines.drain.2.2 := by
  obtain ⟨chunks, -, -, hafter, -⟩ := log.writeTo_of_accepting cursors offset h
  rw [hafter, copyOutcome_of_open ho]
  exact drain_collect ((log.isClosed_skippedTo cursors offset).trans ho)

/-- A copy with a stream that follows a log writes it from the place of the stream on. -/
theorem writeTo_of_follows {log : ViewerLog σ} (ho : log.stream.lines.isClosed = false)
    {cursors : μ} {offset : UInt64} {sink : κ} (h : Accepting sink) {lines : List LogLine}
    {p : Place lines} (hfollows : (log.skippedTo cursors offset).Follows p)
    (hsize : (render lines).length < UInt64.size) :
    (log.writeTo cursors offset (⟨sink, []⟩ : RecordedSink κ)).1 =
        .ok (UInt64.ofNat (render lines).length) ∧
      (log.writeTo cursors offset (⟨sink, []⟩ : RecordedSink κ)).2.2.taken =
        (render lines).drop p.offset := by
  obtain ⟨hbytes, hnone, hlast⟩ := collect_of_delivers (hfollows.delivers hsize)
  obtain ⟨hanswer, htaken⟩ := writeTo_of_collect ho h hbytes hnone
  have hreached : (log.skippedTo cursors offset).bytesRead = UInt64.ofNat p.offset := by
    rw [← hfollows.marked.bytesRead, UInt64.ofNat_toNat]
  have htotal : p.offset + ((render lines).drop p.offset).length = (render lines).length := by
    have hle := p.offset_le
    rw [List.length_drop]
    omega
  refine ⟨?_, htaken⟩
  rw [hanswer, hlast, hreached, ← UInt64.ofNat_add, htotal]

section Delivered

open LogBackend

variable {φ : Type} [PageFetcher φ] [LogBackend φ]

/-- A copy from the offset that a stream in use has reached. The stream skips as many bytes as it has
delivered, so it goes to twice that offset. Where nothing is recorded there, all of the log from the
offset on is written, and the answer is the length of the log; where the place there is recorded, all
from that place on, so that as many bytes are left out as were delivered before. If that place lies
within the line that is being read, the rest of that line is lost, too, and of the lines behind it those
bytes are written that are left when as many are passed over as come before the place in the lost line,
or none if these are a whole line. -/
theorem writeTo_in_use (backend : φ) (hlog : IsLog (stored backend)) (hsteady : Steady backend)
    (start : LineId) (limits : Limits) (hpage : 1 ≤ limits.pageSize) {log : List LogLine}
    (hfrom : log = fromId start (stored backend)) (hsize : (render log).length < UInt64.size)
    {mode : OpenMode} {first : ByteStream (PagedSource φ)}
    (hopen : mode.open? (PagedSource.start backend start limits) = some first)
    (calls : List ReaderCall) (cursors : μ) (offset tail : UInt64)
    (hoffset : offset.toNat = (bytesOf (first.answerAll calls).1).length) {sink : κ}
    (haccepting : Accepting sink) :
    let used : ViewerLog (PagedSource φ) := ⟨(first.answerAll calls).2, tail⟩
    let written := used.writeTo cursors offset (⟨sink, []⟩ : RecordedSink κ)
    let rest := used.stream.rest.length
    let target := addOffset offset offset
    written.2.1.stream.lines.drain.2.2.source.cursor.tripped = none →
    bytesOf (first.answerAll calls).1 = (render log).take offset.toNat ∧
    (offset = 0 ∨ OffsetMapper.resumePoint? cursors target = none →
      written.1 = .ok (UInt64.ofNat (render log).length) ∧
      written.2.2.taken = (render log).drop offset.toNat) ∧
    (∀ point, OffsetMapper.resumePoint? cursors target = some point → Faithful log target point →
      offset ≠ 0 →
      (rest ≤ offset.toNat →
        written.1 = .ok (UInt64.ofNat (render log).length) ∧
        written.2.2.taken = (render log).drop target.toNat) ∧
      (offset.toNat < rest → ∃ front line more, log = front ++ line :: more ∧
        (render front).length + line.bytes.length = offset.toNat + rest ∧
        written.1 = .ok (target + UInt64.ofNat written.2.2.taken.length) ∧
        written.2.2.taken = copiedPast (target.toNat - (render front).length) more)) := by
  intro used written rest target hquiet
  have hasc : Ascending log := hfrom ▸ (hlog.fromId start).ascending
  obtain ⟨marker, lines, rfl, hfresh, -⟩ := OpenMode.lines_of_open? hopen
  have ho : used.stream.lines.isClosed = false := (isClosed_answerAll _ calls).trans hfresh
  -- No bound is reached from where the copy began.
  have hlast : written.2.1.stream.lines.drain.2.2 =
      (used.skippedTo cursors offset).lines.drain.2.2 :=
    drain_writeTo ho cursors offset (RecordedSink.accepting haccepting [])
  rw [hlast] at hquiet
  have hused : used.stream.lines.source.cursor.tripped = none := by
    have hbegun := LineSequence.tripped_of_nextItem (LineSequence.tripped_of_drain hquiet)
    unfold skippedTo at hbegun
    split at hbegun
    · rwa [tripped_skip] at hbegun
    · exact hbegun
  obtain ⟨hbegin, -⟩ := OpenMode.stands_of_open? hlog (fun _ => hsteady) start hpage hopen
    (quiet_of_answerAll calls hused) hfrom
  obtain ⟨q, hstands, hreach, hpart⟩ := hbegin.answerAll hsize calls hused
  have hzero : (Place.before [] log rfl).offset = 0 := rfl
  rw [hzero, Nat.zero_add, ← hoffset] at hreach
  rw [hzero, List.drop_zero] at hpart
  have hbytes : used.stream.bytesRead = offset :=
    UInt64.toNat_inj.mp (hstands.marked.bytesRead.trans hreach)
  refine ⟨?_, ?_, ?_⟩
  · rw [hoffset]
    exact List.prefix_iff_eq_take.mp hpart
  · intro hmiss
    have hsame : used.skippedTo cursors offset = used.stream := skippedTo_of_unknown ho hbytes hmiss
    rw [hsame] at hquiet
    rw [← hreach]
    exact writeTo_of_follows ho haccepting (hsame.symm ▸ hstands.follows hquiet) hsize
  · rintro point hfound ⟨p, htarget, rfl⟩ hne
    have hjump : used.skippedTo cursors offset = used.stream.jump target p.point :=
      skippedTo_of_known ho hbytes hne hfound
    have hsum : target.toNat = min (offset.toNat + offset.toNat) 18446744073709551615 :=
      toNat_addOffset offset offset
    have hend : q.offset + rest ≤ (render log).length := hstands.offset_add_rest_le
    have hsmall : (render log).length < 18446744073709551616 := hsize
    rw [hjump] at hquiet
    refine ⟨?_, ?_⟩
    · intro hclear
      have hpast : q.offset + rest ≤ p.offset := by omega
      have hlands := hstands.jump hasc hpast hsize htarget
      rw [htarget]
      exact writeTo_of_follows ho haccepting (hjump.symm ▸ hlands.follows hquiet) hsize
    · intro hwithin
      have hbefore : p.offset < q.offset + rest := by omega
      obtain ⟨line, more, hsplit, hlength, hgives, hdiscard⟩ :=
        hstands.gives_jump hasc hsize htarget (by omega) hbefore hquiet
      obtain ⟨hcopied, hnone, hlast⟩ := collect_of_gives hgives rfl
      rw [← hjump] at hcopied hnone hlast
      obtain ⟨hanswer, htaken⟩ := writeTo_of_collect ho haccepting hcopied hnone
      have htaken : written.2.2.taken = _ := htaken
      refine ⟨q.passed, line, more, hsplit, hreach ▸ hlength, ?_, ?_⟩
      · rw [htaken]
        refine hanswer.trans ?_
        rw [hlast, hjump]
        rfl
      · rw [htaken, hjump, htarget, hdiscard]

end Delivered

section ThreeLines

/-- A sink that takes three bytes at a time. -/
def shortWrites : LimitedSink := { chunk := some 3 }

theorem accepting_shortWrites : Accepting shortWrites := LimitedSink.accepting rfl rfl rfl

theorem threeLines_eq_append : threeLines = [⟨⟨10⟩, "one"⟩] ++ threeLines.drop 1 := rfl

/-- The place behind the first line. -/
def behindFirst : Place threeLines := .before _ _ threeLines_eq_append

/-- A reader's view of a cache in which the place behind the first line is recorded. -/
def knowingFirst : CursorView := ⟨recordedAt behindFirst, some freshHold.1⟩

theorem lookup_knowingFirst : OffsetMapper.resumePoint? knowingFirst 4 = some behindFirst.point := by
  obtain ⟨hserves, hget⟩ := serves_recordedAt behindFirst
  exact (hserves.current.lookup 4).trans hget

/-- The log of a viewer to whom two bytes were delivered. -/
def twoDelivered : ViewerLog (PagedSource StoredLog) := ⟨(atBegin.answerAll [.read 2]).2, 0⟩

theorem read_atBegin {n : Nat} (hn : n ≠ 0) :
    atBegin.read n = (.ok ((LogLine.bytes ⟨⟨10⟩, "one"⟩).take n),
      ((atBegin.loaded atBegin.lines.nextLine.2 ⟨⟨10⟩, "one"⟩).deliver n).2) := by
  rw [read_of_idle rfl hn rfl, gives_atBegin.nextLine.1]
  rfl

theorem rest_twoDelivered : twoDelivered.stream.rest = [101, 10] := by
  change (atBegin.read 2).2.rest = _
  rw [read_atBegin (by decide)]
  decide

/-- No bound comes near in a copy of three lines. -/
theorem quiet_twoDelivered {μ : Type} [OffsetMapper μ] (cursors : μ) :
    (twoDelivered.writeTo cursors 2
      (⟨shortWrites, []⟩ : RecordedSink LimitedSink)).2.1.stream.lines.drain.2.2.source.cursor.tripped =
      none := by
  have hroom : (twoDelivered.skippedTo cursors 2).lines.source.Roomy threeLines :=
    roomy_skip (roomy_read stands_atBegin.2 2) cursors 2
  rw [drain_writeTo (isClosed_answerAll _ _) cursors 2 (RecordedSink.accepting accepting_shortWrites [])]
  exact (LineSequence.roomy_drain hroom).tripped

theorem writeTo_in_use_threeLines :
    let sink : RecordedSink LimitedSink := ⟨shortWrites, []⟩
    let unknown := twoDelivered.writeTo (⟨freshHold.2, some freshHold.1⟩ : CursorView) 2 sink
    let known := twoDelivered.writeTo knowingFirst 2 sink
    (unknown.1 = .ok 14 ∧
      unknown.2.2.taken = [101, 10, 116, 119, 111, 10, 116, 104, 114, 101, 101, 10]) ∧
    (known.1 = .ok 14 ∧ known.2.2.taken = [116, 119, 111, 10, 116, 104, 114, 101, 101, 10]) := by
  intro sink unknown known
  have hoffset : (2 : UInt64).toNat = (bytesOf (atBegin.answerAll [.read 2]).1).length := by
    rw [answerAll, answer, read_atBegin (by decide)]
    rfl
  have hcopied {μ : Type} [OffsetMapper μ] (cursors : μ) :=
    writeTo_in_use (⟨threeLines⟩ : StoredLog) isLog_threeLines trivial .least {} (by decide) rfl
      (by decide) open_atBegin [.read 2] cursors 2 0 hoffset accepting_shortWrites
      (quiet_twoDelivered cursors)
  have hrest : twoDelivered.stream.rest.length ≤ (2 : UInt64).toNat := by
    rw [rest_twoDelivered]
    decide
  refine ⟨(hcopied _).2.1 (.inr rfl), ?_⟩
  obtain ⟨hanswer, htaken⟩ := ((hcopied knowingFirst).2.2 _ lookup_knowingFirst
    ⟨behindFirst, rfl, rfl⟩ (by decide)).1 hrest
  exact ⟨hanswer, htaken⟩

/-- A reader stops behind the first of three lines, which is recorded as offset 4. Another one is
delivered two bytes and then copies what comes behind these two: the rest of the first line is
missing. -/
theorem copy_skips_twice :
    let cursors : CursorView := ⟨freshHold.2, some freshHold.1⟩
    let recorded := ((atBegin.read 4).2.close cursors).2
    let written := twoDelivered.writeTo recorded 2 (⟨shortWrites, []⟩ : RecordedSink LimitedSink)
    (atBegin.read 2).1 = .ok [111, 110] ∧ twoDelivered.stream.bytesRead = 2 ∧
      (render threeLines).drop 2 = [101, 10, 116, 119, 111, 10, 116, 104, 114, 101, 101, 10] ∧
      written.1 = .ok 14 ∧
      written.2.2.taken = [116, 119, 111, 10, 116, 104, 114, 101, 101, 10] := by
  intro cursors recorded written
  have hrecorded : recorded = knowingFirst := by
    change ((atBegin.read 4).2.close cursors).2 = _
    rw [close_of_open (isClosed_read atBegin 4), read_atBegin (by decide)]
    rfl
  have hbytes : twoDelivered.stream.bytesRead = 2 := by
    change (atBegin.read 2).2.bytesRead = 2
    rw [read_atBegin (by decide)]
    rfl
  have hopen : twoDelivered.stream.lines.isClosed = false := isClosed_read atBegin 2
  have hskip : twoDelivered.skippedTo recorded 2 =
      twoDelivered.stream.jump 4 behindFirst.point := by
    rw [hrecorded]
    exact skippedTo_of_known hopen hbytes (by decide) lookup_knowingFirst
  obtain ⟨hbegin, hroom⟩ := stands_atBegin
  obtain ⟨q, hstands, hoffset, -⟩ := hbegin.answerAll (by decide) [.read 2] (roomy_read hroom 2).tripped
  have hlands : (twoDelivered.stream.jump 4 behindFirst.point).Stands True threeLines behindFirst := by
    refine hstands.jump isLog_threeLines.ascending ?_ (by decide) rfl
    change q.offset + twoDelivered.stream.rest.length ≤ _
    rw [hoffset, rest_twoDelivered, answerAll, answer, read_atBegin (by decide)]
    decide
  have hquiet := quiet_twoDelivered recorded
  rw [drain_writeTo hopen recorded 2
    (RecordedSink.accepting accepting_shortWrites []), hskip] at hquiet
  obtain ⟨hanswer, htaken⟩ := writeTo_of_follows hopen accepting_shortWrites
    (hskip.symm ▸ hlands.follows hquiet) (by decide)
  exact ⟨congrArg Prod.fst (read_atBegin (by decide)), hbytes, by decide, hanswer, htaken⟩

end ThreeLines

end ViewerLog

end RunLog
