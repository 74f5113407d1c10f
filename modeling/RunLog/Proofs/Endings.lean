import RunLog.Proofs.Items
import RunLog.Proofs.Landing

namespace RunLog

namespace LineSequence

variable {σ : Type} [PageSupply σ] {seq : LineSequence σ}

theorem nextLine_eq_none_iff : seq.nextLine.1 = .ok none ↔ seq.hasNext.1 = .ok false := by
  refine ⟨fun h => (hasNext_of_nextLine_none h).1, fun h => ?_⟩
  rw [nextLine_eq, h]

theorem hasNext_of_nextLine_error {e : RetrievalError} (h : seq.nextLine.1 = .error e) :
    seq.hasNext.1 = .error e ∧ seq.nextLine.2 = seq.hasNext.2 := by
  rw [nextLine_eq] at h ⊢
  cases hnext : seq.hasNext.1 with
  | error e' =>
    rw [hnext] at h
    obtain rfl : e' = e := Except.error.inj h
    exact ⟨rfl, rfl⟩
  | ok more =>
    rw [hnext] at h
    cases more <;> exact nomatch h

/-- Behind an error no line follows. -/
theorem nextLine_of_failed {e : RetrievalError} (ho : seq.isClosed = false)
    (h : seq.hasNext.1 = .error e) : seq.hasNext.2.nextLine.1 = .ok none := by
  obtain ⟨hb, hs⟩ := failed_of_hasNext ho h
  rw [nextLine_eq, hasNext_of_ended hb (by simp [hs]) (by simp [hs])]

/-- Looking ahead takes no line. -/
theorem nextLine_hasNext {more : Bool} (h : seq.hasNext.1 = .ok more) :
    seq.hasNext.2.nextLine = seq.nextLine := by
  rw [nextLine_eq, nextLine_eq seq, hasNext_hasNext h, h]

theorem Gives.hasNext {σ : Type} [PageSource σ] {seq : LineSequence σ} {lines : List LogLine}
    (h : seq.Gives lines) :
    seq.hasNext.1 = .ok !lines.isEmpty ∧ seq.hasNext.2.Gives lines := by
  obtain ⟨hline, -⟩ := h.nextLine
  cases hnext : seq.hasNext.1 with
  | error e =>
    rw [nextLine_eq, hnext] at hline
    exact nomatch hline
  | ok more =>
    have hsame := drain_hasNext hnext h.isOpen
    refine ⟨?_, (isClosed_hasNext seq).trans h.isOpen, hsame ▸ h.lines, hsame ▸ h.errors⟩
    cases more with
    | false =>
      rw [nextLine_eq_none_iff.mpr hnext] at hline
      cases lines with
      | nil => rfl
      | cons line lines => exact nomatch hline
    | true =>
      cases lines with
      | nil => exact nomatch hnext.symm.trans (nextLine_eq_none_iff.mp hline)
      | cons line lines => rfl

end LineSequence

/-- What can be asked of an open stream. A skip looks up its offset among those that it is given: other
readers may have changed them since the last one. -/
inductive StreamCall (μ : Type) where
  | read (n : Nat)
  | available
  | skip (cursors : μ) (n : UInt64)

namespace ByteStream

variable {σ : Type} [PageSupply σ] {μ : Type} [OffsetMapper μ] {s : ByteStream σ} {n : Nat}

/-- The stream after a call. -/
def called (s : ByteStream σ) : StreamCall μ → ByteStream σ
  | .read n => (s.read n).2
  | .available => s.available.2
  | .skip cursors n => (s.skip cursors n).2

/-- The stream after some calls. -/
def calledAll (s : ByteStream σ) (calls : List (StreamCall μ)) : ByteStream σ := calls.foldl called s

/-- No byte is at hand, and no line follows. -/
structure AtEnd (s : ByteStream σ) : Prop where
  rest : s.rest = []
  lines : s.lines.hasNext.1 = .ok false

/-- No byte is at hand, and the line that follows is to be passed over to its end. -/
def Swallows (s : ByteStream σ) : Prop :=
  s.rest = [] ∧ ∃ line, s.lines.nextLine.1 = .ok (some line) ∧ line.bytes.length ≤ s.discard

/-- Of the line that follows there are bytes behind those to be passed over. -/
def Fits (s : ByteStream σ) : Prop :=
  ∀ line, s.lines.nextLine.1 = .ok (some line) → s.discard < line.bytes.length

/-- A point that the call finds lies within the line behind it, if there is one. -/
def PointFits (s : ByteStream σ) : StreamCall μ → Prop
  | .skip cursors n => ∀ point,
    OffsetMapper.resumePoint? cursors (addOffset s.bytesRead n) = some point →
      (s.jump (addOffset s.bytesRead n) point).Fits
  | _ => True

/-- All points that the calls find lie within the lines behind them. -/
def PointsFit (s : ByteStream σ) : List (StreamCall μ) → Prop
  | [] => True
  | call :: calls => s.PointFits call ∧ PointsFit (s.called call) calls

theorem Fits.not_swallows (h : s.Fits) : ¬ s.Swallows := by
  rintro ⟨-, line, hline, hle⟩
  exact absurd (h line hline) (Nat.not_lt_of_le hle)

theorem fits_of_discard (h : s.discard = 0) : s.Fits := by
  intro line _
  rw [h]
  exact line.length_bytes_pos

theorem fits_of_no_line (h : s.lines.nextLine.1 = .ok none) : s.Fits := by
  intro line hline
  exact nomatch h.symm.trans hline

/-- What is to be passed over counts for the line at which it comes, and no further. -/
theorem fits_read_of_idle (ho : s.lines.isClosed = false) (hn : n ≠ 0) (hr : s.rest = []) :
    (s.read n).2.Fits := by
  rw [read_of_idle ho hn hr]
  cases hline : s.lines.nextLine.1 with
  | error e =>
    obtain ⟨hnext, hafter⟩ := LineSequence.hasNext_of_nextLine_error hline
    rw [hafter]
    exact fits_of_no_line (LineSequence.nextLine_of_failed ho hnext)
  | ok found =>
    cases found with
    | none => exact fits_of_discard rfl
    | some line => exact fits_of_discard rfl

theorem Fits.read (h : s.Fits) (ho : s.lines.isClosed = false) (n : Nat) : (s.read n).2.Fits := by
  by_cases hn : n = 0
  · rw [hn, read_zero ho]
    exact h
  by_cases hr : s.rest = []
  · exact fits_read_of_idle ho hn hr
  · rw [read_of_pending ho hn hr]
    exact h

theorem Fits.available (h : s.Fits) (ho : s.lines.isClosed = false) : s.available.2.Fits := by
  by_cases hr : s.rest = []
  · rw [available_of_idle ho hr]
    cases hnext : s.lines.hasNext.1 with
    | error e => exact fits_of_no_line (LineSequence.nextLine_of_failed ho hnext)
    | ok more =>
      intro line hline
      exact h line ((congrArg Prod.fst (LineSequence.nextLine_hasNext hnext)).symm.trans hline)
  · rw [available_of_pending ho hr]
    exact h

theorem Fits.skip (h : s.Fits) (ho : s.lines.isClosed = false) {cursors : μ} {n : UInt64}
    (hpoint : s.PointFits (.skip cursors n)) : (s.skip cursors n).2.Fits := by
  rw [skip_of_open ho]
  cases hfound : OffsetMapper.resumePoint? cursors (addOffset s.bytesRead n) with
  | none => exact h
  | some point => exact hpoint point hfound

theorem isClosed_skip (s : ByteStream σ) (cursors : μ) (n : UInt64) :
    (s.skip cursors n).2.lines.isClosed = s.lines.isClosed := by
  cases hc : s.lines.isClosed with
  | true => rw [ByteStream.skip, if_pos hc, hc]
  | false =>
    rw [skip_of_open hc]
    dsimp only
    split
    · exact (s.isClosed_jump _ _).trans hc
    · exact hc

theorem isClosed_called (s : ByteStream σ) (call : StreamCall μ) :
    (s.called call).lines.isClosed = s.lines.isClosed := by
  cases call with
  | read n => exact s.isClosed_read n
  | available => exact s.isClosed_available
  | skip cursors n => exact s.isClosed_skip cursors n

theorem isClosed_calledAll (s : ByteStream σ) (calls : List (StreamCall μ)) :
    (s.calledAll calls).lines.isClosed = s.lines.isClosed := by
  induction calls generalizing s with
  | nil => rfl
  | cons call calls ih => exact (ih (s.called call)).trans (s.isClosed_called call)

theorem Fits.called (h : s.Fits) (ho : s.lines.isClosed = false) {call : StreamCall μ}
    (hpoint : s.PointFits call) : (s.called call).Fits := by
  cases call with
  | read n => exact h.read ho n
  | available => exact h.available ho
  | skip cursors n => exact h.skip ho hpoint

theorem Fits.calledAll (h : s.Fits) (ho : s.lines.isClosed = false) {calls : List (StreamCall μ)}
    (hpoints : s.PointsFit calls) : (s.calledAll calls).Fits := by
  induction calls generalizing s with
  | nil => exact h
  | cons call calls ih =>
    obtain ⟨hpoint, hmore⟩ := hpoints
    exact ih (h.called ho hpoint) ((s.isClosed_called call).trans ho) hmore

/-- A read with room for a byte gets none at the end, and at a line to be passed over to its end. -/
theorem read_eq_nil_iff (ho : s.lines.isClosed = false) (hn : n ≠ 0) :
    (s.read n).1 = .ok [] ↔ s.AtEnd ∨ s.Swallows := by
  by_cases hr : s.rest = []
  · have hend : s.AtEnd ↔ s.lines.nextLine.1 = .ok none := by
      rw [LineSequence.nextLine_eq_none_iff]
      exact ⟨fun h => h.lines, fun h => ⟨hr, h⟩⟩
    rw [hend, Swallows, and_iff_right hr, read_of_idle ho hn hr]
    cases s.lines.nextLine.1 with
    | error e => simp
    | ok found =>
      cases found with
      | none => simp
      | some line =>
        have hnone : ((s.loaded s.lines.nextLine.2 line).deliver n).1 = [] ↔
            line.bytes.length ≤ s.discard := by
          rw [deliver_eq_nil_iff _ hn, ← List.drop_eq_nil_iff]
          rfl
        simpa using hnone
  · rw [read_of_pending ho hn hr, Except.ok.injEq, deliver_eq_nil_iff s hn]
    exact iff_of_false hr fun h => h.elim (fun h => hr h.rest) fun h => hr h.1

/-- Behind the read that finds the end nothing is left unread. -/
theorem AtEnd.read (h : s.AtEnd) (ho : s.lines.isClosed = false) (hn : n ≠ 0) :
    (s.read n).2.rest = [] ∧ (s.read n).2.lines.nextLine = (.ok none, (s.read n).2.lines) := by
  have hline := LineSequence.nextLine_eq_none_iff.mpr h.lines
  rw [read_of_idle ho hn h.rest, hline]
  exact ⟨rfl, LineSequence.nextLine_of_none hline⟩

/-- Asking what is available changes nothing for the read behind it. -/
theorem read_available {more : Bool} (ho : s.lines.isClosed = false) (hn : n ≠ 0)
    (h : s.available.1 = .ok more) : (s.available.2.read n).1 = (s.read n).1 := by
  by_cases hr : s.rest = []
  · have hopen := s.isClosed_available.trans ho
    rw [available_of_idle ho hr] at h hopen ⊢
    cases hnext : s.lines.hasNext.1 with
    | error e =>
      rw [hnext] at h
      exact nomatch h
    | ok found =>
      have hsame : s.lines.hasNext.2.nextLine = s.lines.nextLine :=
        LineSequence.nextLine_hasNext hnext
      rw [hnext] at hopen
      have hahead := read_of_idle (s := { s with lines := s.lines.hasNext.2 }) hopen hn hr
      rw [hsame] at hahead
      rw [read_of_idle ho hn hr, hahead]
      generalize s.lines.nextLine.1 = answer
      obtain e | _ | line := answer <;> rfl
  · rw [available_of_pending ho hr]

theorem not_atEnd_of_available (ho : s.lines.isClosed = false) (h : s.available.1 = .ok true) :
    ¬ s.AtEnd := by
  intro hend
  rw [available_of_idle ho hend.rest, hend.lines] at h
  cases h

/-- A read that follows the answer that more is available does not fail. -/
theorem read_ok_of_available (ho : s.lines.isClosed = false) (hn : n ≠ 0)
    (h : s.available.1 = .ok true) : ∃ data, (s.read n).1 = .ok data := by
  by_cases hr : s.rest = []
  · rw [available_of_idle ho hr] at h
    cases hnext : s.lines.hasNext.1 with
    | error e =>
      rw [hnext] at h
      exact nomatch h
    | ok more =>
      rw [hnext] at h
      obtain rfl : more = true := by simpa using h
      obtain ⟨line, others, hcons⟩ :=
        List.exists_cons_of_ne_nil (LineSequence.buffer_ne_nil_of_hasNext hnext)
      rw [read_of_idle ho hn hr, LineSequence.nextLine_eq, hnext, hcons]
      exact ⟨_, rfl⟩
  · rw [read_of_pending ho hn hr]
    exact ⟨_, rfl⟩

/-- When a read finds the end of a stream, over any source, with any offsets and after any calls. A read
with room for a byte gets none exactly at the end, or where a skip left the line that follows to be
passed over to its end. In the first case nothing is left unread: no byte is at hand, and there is no line
and will be none. In the second the line is gone, and the next read gets bytes of the line behind it, if
there is one. The answer that more is available is followed by a read of at least one byte, but for that
second case, which does not come up as long as the points that skips find lie within the lines behind
them. -/
theorem read_empty_of_calls (lines : LineSequence σ) (hopen : lines.isClosed = false)
    (calls : List (StreamCall μ)) (n : Nat) (hn : n ≠ 0) :
    let s := (ofLines lines).calledAll calls
    ((s.read n).1 = .ok [] ↔ s.AtEnd ∨ s.Swallows) ∧
    (s.AtEnd → (s.read n).2.rest = [] ∧
      (s.read n).2.lines.nextLine = (.ok none, (s.read n).2.lines)) ∧
    (s.Swallows → ∀ m, m ≠ 0 → (((s.read n).2.read m).1 = .ok [] ↔ (s.read n).2.AtEnd)) ∧
    (s.available.1 = .ok true →
      ∃ data, (s.available.2.read n).1 = .ok data ∧ (data = [] ↔ s.Swallows)) ∧
    ((ofLines lines).PointsFit calls → ¬ s.Swallows) := by
  intro s
  have ho : s.lines.isClosed = false := ((ofLines lines).isClosed_calledAll calls).trans hopen
  refine ⟨read_eq_nil_iff ho hn, fun hend => hend.read ho hn, ?_, ?_, ?_⟩
  · intro hswallows m hm
    have hfits : (s.read n).2.Fits := fits_read_of_idle ho hn hswallows.1
    rw [read_eq_nil_iff ((s.isClosed_read n).trans ho) hm, or_iff_left hfits.not_swallows]
  · intro hmore
    obtain ⟨data, hread⟩ := read_ok_of_available ho hn hmore
    refine ⟨data, (read_available ho hn hmore).trans hread, ?_⟩
    have hiff := read_eq_nil_iff ho hn
    rwa [hread, Except.ok.injEq, or_iff_right (not_atEnd_of_available ho hmore)] at hiff
  · intro hpoints
    exact ((fits_of_discard rfl).calledAll hopen hpoints).not_swallows

section ThreeLines

theorem yields_atBegin : LineSequence.Yields True threeLines atBegin.lines threeLines :=
  LineSequence.Yields.start isLog_storedThreeLines (fun _ => trivial) .least (by decide) false

theorem gives_atBegin : atBegin.lines.Gives threeLines :=
  yields_atBegin.gives rfl (LineSequence.roomy_drain stands_atBegin.2).tripped

theorem read_empty_of_calls_threeLines :
    let place : Place threeLines := .inside [⟨⟨10⟩, "one"⟩] ⟨⟨20⟩, "two"⟩ [⟨⟨30⟩, "three"⟩] rfl 2 (by decide)
    let cursors : CursorView := ⟨recordedAt place, some freshHold.1⟩
    let s := atBegin.calledAll [StreamCall.skip cursors 6]
    s.available.1 = .ok true ∧ ∃ data, (s.available.2.read 5).1 = .ok data ∧ data ≠ [] := by
  intro place cursors s
  obtain ⟨hserves, hget⟩ := serves_recordedAt place
  have hlookup : OffsetMapper.resumePoint? cursors 6 = some place.point :=
    (hserves.current.lookup 6).trans hget
  have htarget : addOffset atBegin.bytesRead 6 = 6 := addOffset_zero 6
  have hskip : s = atBegin.jump 6 place.point := by
    change (atBegin.skip cursors 6).2 = _
    rw [skip_of_open rfl, htarget, hlookup]
  -- Behind the skip come the second line, of which two bytes are to be passed over, and the third.
  have hyields := yields_jump yields_atBegin 6 place
  have hroom : (atBegin.skip cursors 6).2.lines.source.Roomy threeLines :=
    roomy_skip stands_atBegin.2 cursors 6
  change s.lines.source.Roomy threeLines at hroom
  have hgives : s.lines.Gives (threeLines.drop 1) := by
    rw [hskip] at hroom ⊢
    exact hyields.gives (isClosed_jump _ _ _) (LineSequence.roomy_drain hroom).tripped
  have hmore : s.available.1 = .ok true := by
    have hrest : s.rest = [] := by rw [hskip]; rfl
    rw [available_of_idle hgives.isOpen hrest, hgives.hasNext.1]
    rfl
  obtain ⟨-, -, -, hread, hfits⟩ :=
    read_empty_of_calls atBegin.lines rfl [StreamCall.skip cursors 6] 5 (by decide)
  obtain ⟨data, hdata, hnil⟩ := hread hmore
  have hpoints : atBegin.PointsFit [StreamCall.skip cursors 6] := by
    refine ⟨fun point hfound line hline => ?_, trivial⟩
    rw [htarget, hlookup, Option.some.injEq] at hfound
    rw [htarget, ← hfound, ← hskip] at hline ⊢
    rw [hgives.nextLine.1] at hline
    obtain rfl : (⟨⟨20⟩, "two"⟩ : LogLine) = line := by simpa [threeLines] using hline
    rw [hskip]
    decide
  exact ⟨hmore, data, hdata, fun hempty => hfits hpoints (hnil.mp hempty)⟩

/-- The offset behind the first of three lines is recorded as four bytes into that line. A reader that
skips there is told that more is available, and then a read gets no byte while two lines follow. -/
theorem false_end :
    let cursors : CursorView := ⟨freshHold.2.record freshHold.1 4 ⟨none, 4⟩, some freshHold.1⟩
    let s := (atBegin.skip cursors 4).2
    s.available.1 = .ok true ∧ (s.available.2.read 8).1 = .ok [] ∧
      (s.available.2.read 8).2.lines.hasNext.1 = .ok true := by
  intro cursors s
  have hskip : s = atBegin.jump 4 ⟨none, 4⟩ := by
    change (atBegin.skip cursors 4).2 = _
    rw [skip_of_open rfl]
    rfl
  have hgives : s.lines.Gives threeLines := by
    rw [hskip]
    exact gives_atBegin
  have hrest : s.rest = [] := by rw [hskip]; rfl
  obtain ⟨hmore, hahead⟩ := hgives.hasNext
  have havail : s.available = (.ok true, { s with lines := s.lines.hasNext.2 }) := by
    rw [available_of_idle hgives.isOpen hrest, hmore]
    rfl
  -- The four bytes to be passed over are all bytes of the first line.
  obtain ⟨hline, hbehind⟩ := hahead.nextLine
  have hread := read_of_idle (s := s.available.2) (n := 8) (by rw [havail]; exact hahead.isOpen)
    (by decide) (by rw [havail]; exact hrest)
  rw [havail, hline, hskip] at hread
  rw [havail, hskip, hread]
  exact ⟨rfl, rfl, (hskip ▸ hbehind).hasNext.1⟩

end ThreeLines

end ByteStream

end RunLog
