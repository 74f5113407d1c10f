import Mathlib.Logic.Relation
import RunLog.Proofs.Growing
import RunLog.Proofs.Resuming

namespace RunLog

open LogBackend ByteStream

/-- A stream that was resumed, and what its reader has got since. -/
structure Resumption (φ : Type) where
  stream : ByteStream (PagedSource φ)
  received : List UInt8 := []
  /-- A read with room for a byte came back without one. -/
  ended : Bool := false

namespace Resumption

variable {φ : Type} [PageFetcher φ]

def read (r : Resumption φ) (n : Nat) : Resumption φ :=
  match r.stream.read n with
  | (.ok data, stream) =>
    { stream, received := r.received ++ data, ended := r.ended || (data.isEmpty && n ≠ 0) }
  | (.error _, stream) => { r with stream }

theorem read_of_ok {r : Resumption φ} {n : Nat} {data : List UInt8}
    (h : (r.stream.read n).1 = .ok data) :
    r.read n = ⟨(r.stream.read n).2, r.received ++ data, r.ended || (data.isEmpty && n ≠ 0)⟩ := by
  rw [read, show r.stream.read n = (.ok data, (r.stream.read n).2) from Prod.ext h rfl]

theorem read_of_error {r : Resumption φ} {n : Nat} {e : TransferError}
    (h : (r.stream.read n).1 = .error e) : r.read n = { r with stream := (r.stream.read n).2 } := by
  rw [read, show r.stream.read n = (.error e, (r.stream.read n).2) from Prod.ext h rfl]

theorem stream_read (r : Resumption φ) (n : Nat) : (r.read n).stream = (r.stream.read n).2 := by
  cases h : (r.stream.read n).1 with
  | error e => rw [read_of_error h]
  | ok data => rw [read_of_ok h]

theorem read_zero {r : Resumption φ} (ho : r.stream.lines.isClosed = false) : r.read 0 = r := by
  rw [read_of_ok (congrArg Prod.fst (ByteStream.read_zero ho)), ByteStream.read_zero ho]
  simp

/-- The stream was resumed within a line behind another one, and a read brought nothing but the end. -/
def Spoils (r : Resumption φ) (point : ResumePoint) : Prop :=
  r.received = [] ∧ r.ended = true ∧ point.after ≠ none ∧ point.intoNext ≠ 0

variable [LogBackend φ]

/-- What can happen to a resumed stream: it is read, also after an error or an end, or something happens
while it is not read. -/
inductive Step : Resumption φ → Resumption φ → Prop
  | read (r : Resumption φ) (n : Nat) : Step r (r.read n)
  | wait (r : Resumption φ) (s : ByteStream (PagedSource φ)) (h : Wait r.stream s) :
      Step r { r with stream := s }

variable {start : LineId} {target : UInt64} {point : ResumePoint} {r r' : Resumption φ}

theorem quiet_of_step (h : Step r r') (hq : r'.stream.lines.source.cursor.tripped = none) :
    r.stream.lines.source.cursor.tripped = none := by
  cases h with
  | read n =>
    rw [stream_read] at hq
    exact tripped_of_read hq
  | wait s h => exact quiet_of_wait h hq

theorem logFrom_step (start : LineId) (h : Step r r') :
    ∃ more, r'.stream.logFrom start = r.stream.logFrom start ++ more := by
  cases h with
  | read n => exact ⟨[], by rw [stream_read, logFrom_read, List.append_nil]⟩
  | wait s h => exact logFrom_wait start h

/-- The invariant of a resumed stream. It keeps to its place in the log, and before the first byte this
is the place of the point at which it was resumed; or it has strayed from there. -/
inductive Sound (start : LineId) (target : UInt64) (point : ResumePoint) (r : Resumption φ) : Prop
  | keeps {lines log : List LogLine} (hfrom : log = fromId start lines) (p : Place log)
      (hkeeps : r.stream.Keeps start lines p)
      (hfresh : r.received = [] → target.toNat = p.offset ∧ point = p.point ∧
        (p.into ≠ 0 → r.ended = false))
      (hidle : r.stream.rest = [] → p.into ≠ 0 → r.received = [])
  | strayed {log : List LogLine} (hfrom : log = r.stream.logFrom start) (p : Place log)
      (hstrayed : r.stream.Strayed p) (hinto : p.into ≠ 0) (hnone : r.received = [])
      (hended : r.ended = true) (htarget : target.toNat = p.offset) (hpoint : point = p.point)

theorem Sound.isOpen (h : r.Sound start target point) : r.stream.lines.isClosed = false := by
  cases h with
  | keeps _ p hkeeps => exact hkeeps.isOpen
  | strayed _ p hstrayed => exact hstrayed.isOpen

theorem Sound.read (h : r.Sound start target point) (n : Nat)
    (hsize : (render (r.stream.logFrom start)).length < UInt64.size)
    (hq : (r.stream.read n).2.lines.source.cursor.tripped = none) :
    (r.read n).Sound start target point := by
  by_cases hn : n = 0
  · rw [hn, read_zero h.isOpen]
    exact h
  cases h with
  | @keeps lines log hfrom p hkeeps hfresh hidle =>
    have hlog : log = r.stream.logFrom start := by rw [logFrom, hkeeps.stored_eq, hfrom]
    rw [← hlog] at hsize
    rcases hkeeps.read hsize hn hq with ⟨data, hok, hne, q, hnext, hinto⟩ |
      ⟨hok, hrest, ⟨hsame, hzero⟩ | ⟨hstrayed, hinto⟩⟩ | ⟨⟨e, herror⟩, hrest, hsame⟩
    · -- Bytes were delivered, so the condition on the first read is over.
      rw [read_of_ok hok]
      refine .keeps hfrom q hnext (fun hnil => ?_) fun hrest hne => absurd (hinto hrest) hne
      exact absurd (List.append_eq_nil_iff.mp hnil).2 hne
    · -- The end was told between two lines, where there is nothing to forget.
      rw [read_of_ok hok]
      refine .keeps hfrom p hsame (fun hnil => ?_) fun _ hne => absurd hzero hne
      obtain ⟨htarget, hpoint, -⟩ := hfresh (List.append_eq_nil_iff.mp hnil).1
      exact ⟨htarget, hpoint, fun hne => absurd hzero hne⟩
    · -- What was to be passed over was still to come, so nothing was received before.
      have hnone := hidle hrest hinto
      obtain ⟨htarget, hpoint, -⟩ := hfresh hnone
      rw [read_of_ok hok]
      exact .strayed (hlog.trans (logFrom_read start r.stream n).symm) p hstrayed hinto
        (by rw [hnone]; rfl) (by simp [hn]) htarget hpoint
    · rw [read_of_error herror]
      exact .keeps hfrom p hsame hfresh fun _ => hidle hrest
  | strayed hfrom p hstrayed hinto hnone hended htarget hpoint =>
    obtain ⟨hok, hsame⟩ := hstrayed.read n
    rw [read_of_ok hok]
    exact .strayed (hfrom.trans (logFrom_read start r.stream n).symm) p hsame hinto
      (by rw [hnone]; rfl) (by rw [hended]; rfl) htarget hpoint

theorem Sound.wait (h : r.Sound start target point) {s : ByteStream (PagedSource φ)}
    (hwait : Wait r.stream s) (hq : s.lines.source.cursor.tripped = none) :
    Sound start target point { r with stream := s } := by
  cases h with
  | keeps hfrom p hkeeps hfresh hidle =>
    obtain ⟨lines', log', hfrom', q, hsame, hoffset, hinto, hpoint, hrest⟩ :=
      hkeeps.wait hfrom hwait hq
    refine .keeps hfrom' q hsame ?_ ?_
    · rw [hoffset, hinto, hpoint]
      exact hfresh
    · rw [hinto]
      exact fun hnil => hidle (hrest.symm.trans hnil)
  | strayed hfrom p hstrayed hinto hnone hended htarget hpoint =>
    obtain ⟨log', hfrom', q, hsame, hoffset, hinto', hpoint'⟩ := hstrayed.wait hfrom hwait
    exact .strayed hfrom' q hsame (hinto' ▸ hinto) hnone hended (htarget.trans hoffset.symm)
      (hpoint.trans hpoint'.symm)

/-- What a run preserves: while the log stays short enough, and no bound is named. -/
theorem Sound.run (h : r.Sound start target point) (hrun : Relation.ReflTransGen Step r r')
    (hsize : (render (r'.stream.logFrom start)).length < UInt64.size)
    (hq : r'.stream.lines.source.cursor.tripped = none) : r'.Sound start target point := by
  induction hrun with
  | refl => exact h
  | tail _ hstep ih =>
    obtain ⟨more, hmore⟩ := logFrom_step start hstep
    have hbefore := hsize
    rw [hmore, render_append, List.length_append] at hbefore
    have hsound := ih (Nat.lt_of_le_of_lt (Nat.le_add_right _ _) hbefore) (quiet_of_step hstep hq)
    cases hstep with
    | read n =>
      rw [stream_read] at hq
      exact hsound.read n (Nat.lt_of_le_of_lt (Nat.le_add_right _ _) hbefore) hq
    | wait s hwait => exact hsound.wait hwait hq

theorem Sound.of_skip {lines log : List LogLine} (hfrom : log = fromId start lines)
    (hlog : IsLog lines) {s : ByteStream (PagedSource φ)} {begin p : Place log}
    (h : s.Keeps start lines begin) (hr : s.rest = []) (hbegin : begin.offset = 0)
    (hsize : (render log).length < UInt64.size) (htarget : target.toNat = p.offset) :
    Sound start target p.point ⟨s.jump target p.point, [], false⟩ :=
  .keeps hfrom p (h.jump hr hbegin hfrom hlog hsize htarget) (fun _ => ⟨htarget, rfl, fun _ => rfl⟩)
    fun _ _ => rfl

end Resumption

section Closing

open Resumption

variable {φ : Type} [PageFetcher φ] [LogBackend φ]

/-- However it is opened, a stream over a log begins at its first byte. -/
theorem OpenMode.keeps_of_open? {backend : φ} (hlog : IsLog (stored backend)) (start : LineId)
    {limits : Limits} (hp : 0 < limits.pageSize) {mode : OpenMode} {s : ByteStream (PagedSource φ)}
    (hs : mode.open? (PagedSource.start backend start limits) = some s)
    (hq : s.lines.source.cursor.tripped = none) :
    s.Keeps start (stored backend) (.before [] (fromId start (stored backend)) rfl) ∧ s.rest = [] := by
  have hfresh := LineSequence.Brings.start hlog start hp
  obtain ⟨marker, lines, rfl, hopen, rfl | ⟨more, hnext⟩⟩ := lines_of_open? hs
  · exact ⟨⟨rfl, ⟨rfl, rfl, rfl⟩, .inl ⟨rfl, hfresh marker⟩⟩, rfl⟩
  · have hahead := (hfresh marker).hasNext rfl
    rw [hnext] at hahead
    exact ⟨⟨hopen, ⟨rfl, rfl, rfl⟩, .inl ⟨rfl, (hahead hq).1⟩⟩, rfl⟩

/-- While a stream only waits it stays at the begin of its log. -/
theorem ByteStream.keeps_of_waits {start : LineId} {first s : ByteStream (PagedSource φ)}
    {lines log : List LogLine} (hfrom : log = fromId start lines) {p : Place log}
    (h : first.Keeps start lines p) (hrun : Relation.ReflTransGen Wait first s)
    (hq : s.lines.source.cursor.tripped = none) :
    ∃ lines' log', log' = fromId start lines' ∧ ∃ q : Place log', s.Keeps start lines' q ∧
      q.offset = p.offset ∧ s.rest = first.rest := by
  induction hrun with
  | refl => exact ⟨lines, log, hfrom, p, h, rfl, rfl⟩
  | tail _ hwait ih =>
    obtain ⟨lines', log', hfrom', q, hkeeps, hoffset, hrest⟩ := ih (quiet_of_wait hwait hq)
    obtain ⟨lines'', log'', hfrom'', q', hkeeps', hoffset', -, -, hrest'⟩ :=
      hkeeps.wait hfrom' hwait hq
    exact ⟨lines'', log'', hfrom'', q', hkeeps', hoffset'.trans hoffset, hrest'.trans hrest⟩

variable {start : LineId} {n : UInt64} {point : ResumePoint} {r : Resumption φ} {cache : CursorCache}
  {handle : Handle}

/-- A stream that has strayed records the line before its place as if nothing of the next was passed, or
nothing where the place lies in the first line. -/
theorem ByteStream.Strayed.cursors_close {σ : Type} [PageSupply σ] {log : List LogLine}
    {s : ByteStream σ} {p : Place log} (h : s.Strayed p) (cache : CursorCache) (handle : Handle) :
    (p.point.after = none ∧ (s.close (⟨cache, some handle⟩ : CursorView)).2 = ⟨cache, some handle⟩) ∨
      (p.point.after ≠ none ∧ (s.close (⟨cache, some handle⟩ : CursorView)).2 =
        ⟨cache.record handle s.bytesRead ⟨p.point.after, 0⟩, some handle⟩) := by
  rw [close_of_open h.isOpen, h.resumePoint?, show p.point.after = lastId p.passed from rfl]
  cases lastId p.passed with
  | none => exact .inl ⟨rfl, rfl⟩
  | some id => exact .inr ⟨by simp, rfl⟩

theorem Place.intoNext_eq_zero_iff {log : List LogLine} (p : Place log)
    (hsize : (render log).length < UInt64.size) : p.point.intoNext = 0 ↔ p.into = 0 := by
  have hle : p.into ≤ (render log).length := Nat.le_trans (Nat.le_add_left _ _) p.offset_le
  have hinto : p.point.intoNext.toNat = p.into :=
    UInt64.toNat_ofNat_of_lt' (Nat.lt_of_le_of_lt hle hsize)
  rw [← hinto]
  exact UInt64.toNat_inj.symm

/-- What the close of a sound stream leaves in the cache. -/
theorem Resumption.Sound.close (h : r.Sound start n point)
    (hserves : cache.Serves handle (r.stream.logFrom start))
    (hknown : cache.get? handle.key n = some point)
    (hsize : (render (r.stream.logFrom start)).length < UInt64.size) :
    let log := r.stream.logFrom start
    let closed := (r.stream.close (⟨cache, some handle⟩ : CursorView)).2
    closed.handle = some handle ∧
    (¬ r.Spoils point → closed.cache.Serves handle log ∧
      (r.received = [] → closed.cache.get? handle.key n = some point)) ∧
    (r.Spoils point → closed.cache.get? handle.key n = some ⟨point.after, 0⟩ ∧
      ¬ Faithful log n ⟨point.after, 0⟩) := by
  intro log closed
  cases h with
  | @keeps lines log' hfrom p hkeeps hfresh hidle =>
    obtain rfl : log' = log := by
      rw [hfrom, ← hkeeps.stored_eq]
      rfl
    have hnot : ¬ r.Spoils point := by
      rintro ⟨hnone, hended, -, hinto⟩
      obtain ⟨-, rfl, hgoes⟩ := hfresh hnone
      rw [hgoes (mt (p.intoNext_eq_zero_iff hsize).mpr hinto)] at hended
      cases hended
    rcases hkeeps.marked.cursors_close hkeeps.isOpen cache handle with hrecord | ⟨-, hsame⟩
    · rw [show closed = _ from hrecord]
      refine ⟨rfl, fun _ => ⟨hserves.record hkeeps.marked.bytesRead, fun hnone => ?_⟩,
        fun hsp => absurd hsp hnot⟩
      -- Nothing was read, so the record is what was found there.
      obtain ⟨htarget, rfl, -⟩ := hfresh hnone
      have hbytes : r.stream.bytesRead = n :=
        UInt64.toNat_inj.mp (hkeeps.marked.bytesRead.trans htarget.symm)
      rw [hserves.current.get?_record hserves.wellFormed, hbytes, if_pos rfl]
    · rw [show closed = _ from hsame]
      exact ⟨rfl, fun _ => ⟨hserves, fun _ => hknown⟩, fun hsp => absurd hsp hnot⟩
  | @strayed log' hfrom p hstrayed hinto hnone hended htarget hpoint =>
    obtain rfl : log' = log := hfrom
    subst hpoint
    have hwithin : p.point.intoNext ≠ 0 := mt (p.intoNext_eq_zero_iff hsize).mp hinto
    rcases hstrayed.cursors_close cache handle with ⟨hfirst, hsame⟩ | ⟨hafter, hrecord⟩
    · rw [show closed = _ from hsame]
      exact ⟨rfl, fun _ => ⟨hserves, fun _ => hknown⟩, fun hsp => absurd hfirst hsp.2.2.1⟩
    · have hbytes : r.stream.bytesRead = n :=
        UInt64.toNat_inj.mp (hstrayed.bytesRead.trans htarget.symm)
      rw [show closed = _ from hrecord, hbytes]
      refine ⟨rfl, fun hnot => absurd ⟨hnone, hended, hafter, hwithin⟩ hnot, fun _ => ⟨?_, ?_⟩⟩
      · rw [hserves.current.get?_record hserves.wellFormed, if_pos rfl]
      · intro hfaithful
        exact hwithin (congrArg ResumePoint.intoNext (hfaithful.point_eq htarget)).symm

theorem ByteStream.quiet_of_waits {first s : ByteStream (PagedSource φ)}
    (hrun : Relation.ReflTransGen Wait first s) (hq : s.lines.source.cursor.tripped = none) :
    first.lines.source.cursor.tripped = none := by
  induction hrun with
  | refl => exact hq
  | tail _ hwait ih => exact ih (quiet_of_wait hwait hq)

theorem Resumption.quiet_of_run {r r' : Resumption φ} (hrun : Relation.ReflTransGen Step r r')
    (hq : r'.stream.lines.source.cursor.tripped = none) :
    r.stream.lines.source.cursor.tripped = none := by
  induction hrun with
  | refl => exact hq
  | tail _ hstep ih => exact ih (quiet_of_step hstep hq)

theorem Resumption.logFrom_run {r r' : Resumption φ} (start : LineId)
    (hrun : Relation.ReflTransGen Step r r') :
    ∃ more, r'.stream.logFrom start = r.stream.logFrom start ++ more := by
  induction hrun with
  | refl => exact ⟨[], (List.append_nil _).symm⟩
  | tail _ hstep ih =>
    obtain ⟨more, hmore⟩ := ih
    obtain ⟨others, hothers⟩ := logFrom_step start hstep
    exact ⟨more ++ others, by rw [hothers, hmore, List.append_assoc]⟩

/-- Over a log that grows, and from a backend whose queries may fail, a stream is resumed at a recorded
offset, read in any way, also after errors and ends, and closed. What the cache then holds is true of
the log; and where nothing was received, the point for the offset is as it was. Only if the stream was
resumed within a line behind another one, and a read brought nothing but the end, the point for the
offset is replaced by one that is not true of the log. -/
theorem close_after_resume (backend : φ) (hlog : IsLog (stored backend)) (start : LineId)
    (limits : Limits) (hpage : 1 ≤ limits.pageSize) {mode : OpenMode}
    {first s : ByteStream (PagedSource φ)}
    (hopen : mode.open? (PagedSource.start backend start limits) = some first)
    (hwaits : Relation.ReflTransGen Wait first s) {cache : CursorCache} {handle : Handle}
    (hserves : cache.Serves handle (s.logFrom start)) {n : UInt64} {point : ResumePoint}
    (hknown : cache.get? handle.key n = some point) {r : Resumption φ}
    (hrun : Relation.ReflTransGen Step
      ⟨(s.skip (⟨cache, some handle⟩ : CursorView) n).2, [], false⟩ r)
    (hsize : (render (r.stream.logFrom start)).length < UInt64.size)
    (hquiet : r.stream.lines.source.cursor.tripped = none) :
    let log := r.stream.logFrom start
    let closed := (r.stream.close (⟨cache, some handle⟩ : CursorView)).2
    closed.handle = some handle ∧
    (¬ r.Spoils point → closed.cache.Serves handle log ∧
      (r.received = [] → closed.cache.get? handle.key n = some point)) ∧
    (r.Spoils point → closed.cache.get? handle.key n = some ⟨point.after, 0⟩ ∧
      ¬ Faithful log n ⟨point.after, 0⟩) := by
  have hresumed := quiet_of_run hrun hquiet
  rw [tripped_skip] at hresumed
  -- The stream waits at the begin of the log, and the skip brings it to the recorded place.
  obtain ⟨hbegin, hrest⟩ :=
    OpenMode.keeps_of_open? hlog start hpage hopen (quiet_of_waits hwaits hresumed)
  obtain ⟨lines, log, hfrom, q, hkeeps, hoffset, hstill⟩ := keeps_of_waits rfl hbegin hwaits hresumed
  have hsame : log = s.logFrom start := by rw [logFrom, hkeeps.stored_eq, hfrom]
  subst hsame
  obtain ⟨p, htarget, rfl⟩ := hserves.faithful n point hknown
  have hskip : (s.skip (⟨cache, some handle⟩ : CursorView) n).2 = s.jump n p.point := by
    have hzero : s.bytesRead = 0 :=
      UInt64.toNat_inj.mp (hkeeps.marked.bytesRead.trans (hoffset.trans rfl))
    have hlookup : OffsetMapper.resumePoint? (⟨cache, some handle⟩ : CursorView) n = some p.point :=
      (hserves.current.lookup n).trans hknown
    rw [skip_of_open hkeeps.isOpen, hzero, addOffset_zero, hlookup]
  rw [hskip] at hrun
  obtain ⟨more, hmore⟩ := logFrom_run start hrun
  rw [show (s.jump n p.point).logFrom start = _ from logFrom_jump start s n p.point] at hmore
  have hfits : (render (s.logFrom start)).length < UInt64.size := by
    rw [hmore, render_append, List.length_append] at hsize
    exact Nat.lt_of_le_of_lt (Nat.le_add_right _ _) hsize
  have hskipped := Sound.of_skip hfrom hkeeps.isLog hkeeps (hstill.trans hrest) hoffset hfits htarget
  have hsound := hskipped.run hrun hsize hquiet
  exact hsound.close (hmore ▸ hserves.append more) hknown hsize

end Closing

section ThreeLines

open Resumption

/-- A backend of three lines whose first query fails. -/
def atFirstDown : ObservedFetcher StoredLog :=
  { inner := ⟨threeLines⟩, failures := [(1, .unreachable "down")] }

def overDown : ByteStream (PagedSource (ObservedFetcher StoredLog)) :=
  ofLines { source := .start atFirstDown .least {} }

theorem open_overDown :
    (OpenMode.plain false).open? (PagedSource.start atFirstDown .least {}) = some overDown := rfl

def inSecondLine : Place threeLines :=
  .inside [⟨⟨10⟩, "one"⟩] ⟨⟨20⟩, "two"⟩ [⟨⟨30⟩, "three"⟩] rfl 2 (by decide)

/-- The stream, resumed in the second line. -/
def resumedInLine : Resumption (ObservedFetcher StoredLog) :=
  ⟨(overDown.skip (⟨recordedAt inSecondLine, some freshHold.1⟩ : CursorView) 6).2, [], false⟩

theorem resumedInLine_eq :
    resumedInLine = ⟨overDown.jump 6 inSecondLine.point, [], false⟩ := by
  obtain ⟨hserves, hget⟩ := serves_recordedAt inSecondLine
  have hlookup :
      OffsetMapper.resumePoint? (⟨recordedAt inSecondLine, some freshHold.1⟩ : CursorView) 6 =
        some inSecondLine.point := (hserves.current.lookup 6).trans hget
  have htarget : addOffset overDown.bytesRead 6 = 6 := addOffset_zero 6
  rw [resumedInLine, skip_of_open rfl, htarget, hlookup]

theorem logFrom_resumedInLine : (resumedInLine.read 8).stream.logFrom .least = threeLines := by
  rw [stream_read, logFrom_read, resumedInLine_eq, logFrom_jump]
  rfl

/-- The first read fails, and the second one tells the end. -/
theorem reads_resumedInLine :
    (resumedInLine.read 8).received = [] ∧ (resumedInLine.read 8).ended = false ∧
      ((resumedInLine.read 8).read 8).received = [] ∧ ((resumedInLine.read 8).read 8).ended = true ∧
      ((resumedInLine.read 8).read 8).stream.lines.source.cursor.tripped = none := by
  have hfails : (resumedInLine.stream.read 8).1 = .error (.retrieval (.unreachable "down")) ∧
      (resumedInLine.stream.read 8).2.lines.Ended ∧ (resumedInLine.stream.read 8).2.rest = [] ∧
      (resumedInLine.stream.read 8).2.lines.source.cursor.tripped = none := by
    rw [resumedInLine_eq, read_of_idle rfl (by decide) rfl, LineSequence.nextLine_eq,
      LineSequence.hasNext_of_opened rfl rfl]
    exact ⟨rfl, ⟨rfl, nofun, nofun⟩, rfl, rfl⟩
  obtain ⟨hread, hended, hrest, htripped⟩ := hfails
  have hend := read_of_ended hended hrest (show 8 ≠ 0 by decide)
  rw [read_of_error hread, read_of_ok (congrArg Prod.fst hend), hend]
  exact ⟨rfl, rfl, rfl, rfl, htripped⟩

theorem close_after_resume_threeLines :
    let closed := ((resumedInLine.read 8).stream.close
      (⟨recordedAt inSecondLine, some freshHold.1⟩ : CursorView)).2
    closed.cache.Serves freshHold.1 threeLines ∧
      closed.cache.get? freshHold.1.key 6 = some ⟨some ⟨10⟩, 2⟩ := by
  intro closed
  obtain ⟨hserves, hget⟩ := serves_recordedAt inSecondLine
  obtain ⟨hnone, hended, -, -, hquiet⟩ := reads_resumedInLine
  have hbefore : (resumedInLine.read 8).stream.lines.source.cursor.tripped = none :=
    quiet_of_step (.read _ 8) hquiet
  have hlog := logFrom_resumedInLine
  obtain ⟨-, hkept, -⟩ := close_after_resume atFirstDown isLog_threeLines .least {} (by decide)
    open_overDown .refl hserves hget (.tail .refl (.read resumedInLine 8))
    (by rw [hlog]; decide) hbefore
  have hnot : ¬ (resumedInLine.read 8).Spoils inSecondLine.point := by
    rintro ⟨-, hend, -⟩
    rw [hended] at hend
    cases hend
  obtain ⟨hfaithful, hsame⟩ := hkept hnot
  exact ⟨hlog ▸ hfaithful, hsame hnone⟩

/-- A query fails, and the read behind it tells the end: with that the close forgets how much of the
line was delivered, and records a place that is not the one under its offset. -/
theorem close_spoils_point :
    let closed := (((resumedInLine.read 8).read 8).stream.close
      (⟨recordedAt inSecondLine, some freshHold.1⟩ : CursorView)).2
    (recordedAt inSecondLine).get? freshHold.1.key 6 = some ⟨some ⟨10⟩, 2⟩ ∧
      closed.cache.get? freshHold.1.key 6 = some ⟨some ⟨10⟩, 0⟩ ∧
      ¬ Faithful threeLines 6 ⟨some ⟨10⟩, 0⟩ := by
  intro closed
  obtain ⟨hserves, hget⟩ := serves_recordedAt inSecondLine
  obtain ⟨-, -, hnone, hended, hquiet⟩ := reads_resumedInLine
  have hlogged : IsLog (stored atFirstDown) := isLog_threeLines
  obtain ⟨hbegin, hrest⟩ := OpenMode.keeps_of_open? hlogged .least (by decide) open_overDown rfl
  have hresumed : resumedInLine.Sound .least 6 inSecondLine.point := by
    rw [resumedInLine_eq]
    exact .of_skip rfl isLog_threeLines hbegin hrest rfl (by decide) rfl
  have hlog : ((resumedInLine.read 8).read 8).stream.logFrom .least = threeLines := by
    rw [stream_read, logFrom_read, logFrom_resumedInLine]
  have hsound := hresumed.run (.tail (.tail .refl (.read _ 8)) (.read _ 8)) (by rw [hlog]; decide)
    hquiet
  obtain ⟨-, -, hspoils⟩ := hsound.close (hlog.symm ▸ hserves) hget (by rw [hlog]; decide)
  obtain ⟨hpoint, hnot⟩ := hspoils ⟨hnone, hended, by decide, by decide⟩
  exact ⟨hget, hpoint, hlog ▸ hnot⟩

end ThreeLines

end RunLog
