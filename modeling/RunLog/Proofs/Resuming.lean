import RunLog.Proofs.Cursors
import RunLog.Proofs.Position
import RunLog.Proofs.Room
import RunLog.Retrieval

namespace RunLog

/-- The ways to a stream over a source: a plain one, or one whose first page is fetched at once. -/
inductive OpenMode where
  | plain (marker : Bool)
  | primed (options : StreamOptions)

/-- A stream over a source, unless the first page was to be fetched and did not come. -/
def OpenMode.open? {σ : Type} [PageSupply σ] (source : σ) : OpenMode → Option (ByteStream σ)
  | plain marker => some (.ofLines { source, marker })
  | primed options =>
    match Opening.ofSource source options with
    | .opened log => some log.stream
    | .refused _ _ => none

/-- A stream that was opened is over the fresh sequence, or over the same after a look ahead. -/
theorem OpenMode.lines_of_open? {σ : Type} [PageSupply σ] {source : σ} {mode : OpenMode}
    {s : ByteStream σ} (hs : mode.open? source = some s) :
    ∃ marker, ∃ lines : LineSequence σ, s = .ofLines lines ∧ lines.isClosed = false ∧
      (lines = { source, marker } ∨
        ∃ more, LineSequence.hasNext { source, marker } = (.ok more, lines)) := by
  cases mode with
  | plain marker => exact ⟨marker, _, (Option.some.inj hs).symm, rfl, .inl rfl⟩
  | primed options =>
    have hopen := LineSequence.isClosed_hasNext
      ({ source, marker := options.marker } : LineSequence σ)
    rw [open?, Opening.ofSource] at hs
    generalize hnext : LineSequence.hasNext ({ source, marker := options.marker } :
      LineSequence σ) = r at hs hopen
    obtain ⟨e | more, lines⟩ := r
    · exact nomatch hs
    · exact ⟨options.marker, lines, (Option.some.inj hs).symm, hopen, .inr ⟨more, hnext⟩⟩

/-- The cache serves the holder of a handle on a log: the handle is current, and what is recorded for
its stream is true of the log. -/
structure CursorCache.Serves (cache : CursorCache) (handle : Handle) (log : List LogLine) : Prop where
  wellFormed : cache.WellFormed
  current : cache.IsCurrent handle
  faithful : ∀ offset point, cache.get? handle.key offset = some point → Faithful log offset point

section Opening

variable {φ : Type} [PageFetcher φ] [LogBackend φ]

open LogBackend

/-- However it is opened, a stream over a log begins at its first byte. -/
theorem OpenMode.stands_of_open? {backend : φ} {sure : Prop} (hlog : IsLog (stored backend))
    (hsure : sure → Steady backend) (start : LineId) {limits : Limits} (hp : 0 < limits.pageSize)
    {mode : OpenMode} {s : ByteStream (PagedSource φ)}
    (hs : mode.open? (PagedSource.start backend start limits) = some s)
    (hq : s.lines.source.cursor.tripped = none) {log : List LogLine}
    (hfrom : log = fromId start (stored backend)) :
    s.Stands sure (stored backend) (.before [] log rfl) ∧ s.rest = [] := by
  have hfresh := LineSequence.Yields.start hlog hsure start hp
  rw [← hfrom] at hfresh
  obtain ⟨marker, lines, rfl, hopen, rfl | ⟨more, hnext⟩⟩ := lines_of_open? hs
  · exact ⟨⟨rfl, ⟨rfl, rfl, rfl⟩, .between rfl (hfresh marker)⟩, rfl⟩
  · -- Fetching the first page leaves the lines as they are.
    have hahead := (hfresh marker).hasNext rfl
    rw [hnext] at hahead
    rcases hahead hq with ⟨-, hy, -⟩ | ⟨⟨e, he⟩, -⟩
    · exact ⟨⟨hopen, ⟨rfl, rfl, rfl⟩, .between rfl hy⟩, rfl⟩
    · exact nomatch he

theorem OpenMode.roomy_of_open? {source : PagedSource φ} {lines : List LogLine}
    (h : source.Roomy lines) {mode : OpenMode} {s : ByteStream (PagedSource φ)}
    (hs : mode.open? source = some s) : s.lines.source.Roomy lines := by
  obtain ⟨marker, fresh, rfl, -, rfl | ⟨more, hnext⟩⟩ := lines_of_open? hs
  · exact h
  · have hroom := LineSequence.roomy_hasNext
      (show ({ source, marker } : LineSequence (PagedSource φ)).source.Roomy lines from h)
    rwa [hnext] at hroom

end Opening

namespace CursorCache

variable {cache : CursorCache} {handle : Handle} {log : List LogLine}

theorem serves_hold {key : StreamKey} (hw : cache.WellFormed)
    (ht : ∀ offset point, cache.get? key offset = some point → Faithful log offset point) :
    (cache.hold key).2.Serves (cache.hold key).1 log where
  wellFormed := hw.hold key
  current := cache.isCurrent_hold key
  faithful := by
    intro offset point h
    rw [key_hold, get?_hold] at h
    exact ht offset point h

theorem Serves.append (h : cache.Serves handle log) (more : List LogLine) :
    cache.Serves handle (log ++ more) :=
  ⟨h.wellFormed, h.current, fun offset point hp => (h.faithful offset point hp).append more⟩

theorem Serves.record (h : cache.Serves handle log) {offset : UInt64} {p : Place log}
    (ho : offset.toNat = p.offset) : (cache.record handle offset p.point).Serves handle log where
  wellFormed := h.wellFormed.record handle offset p.point
  current := h.current.record handle offset p.point
  faithful := by
    intro o point hp
    rw [h.current.get?_record h.wellFormed] at hp
    split at hp
    · next heq =>
      subst heq
      exact ⟨p, ho, (Option.some.inj hp).symm⟩
    · exact h.faithful o point hp

end CursorCache

namespace ByteStream

variable {φ : Type} [PageFetcher φ]

variable {cache : CursorCache} {handle : Handle} {log : List LogLine}

/-- What is recorded when a stream is closed: the point of its place, or nothing at the begin of the
log. -/
theorem MarkedAt.cursors_close {σ : Type} [PageSupply σ] {s : ByteStream σ} {p : Place log}
    (h : s.MarkedAt p) (hopen : s.lines.isClosed = false) (cache : CursorCache) (handle : Handle) :
    (s.close (⟨cache, some handle⟩ : CursorView)).2 =
        ⟨cache.record handle s.bytesRead p.point, some handle⟩ ∨
      p.offset = 0 ∧ (s.close (⟨cache, some handle⟩ : CursorView)).2 = ⟨cache, some handle⟩ := by
  rw [close_of_open hopen]
  rcases h.resumePoint? with hpoint | ⟨hnone, hzero⟩
  · left
    rw [hpoint]
    rfl
  · right
    rw [hnone]
    exact ⟨hzero, rfl⟩

/-- Closing a stream records the place where it stood, if it came beyond the begin of the log, and
forgets nothing that was recorded. -/
theorem MarkedAt.close {s : ByteStream (PagedSource φ)} {p : Place log} (h : s.MarkedAt p)
    (hopen : s.lines.isClosed = false) (hserves : cache.Serves handle log) :
    ∃ cache', (s.close (⟨cache, some handle⟩ : CursorView)).2 = ⟨cache', some handle⟩ ∧
      cache'.Serves handle log ∧
      (∀ o, (cache.get? handle.key o).isSome → (cache'.get? handle.key o).isSome) ∧
      (p.offset ≠ 0 → (cache'.get? handle.key s.bytesRead).isSome) ∧
      (s.close (⟨cache, some handle⟩ : CursorView)).1.lines.isClosed = true ∧
      (s.close (⟨cache, some handle⟩ : CursorView)).1.bytesRead = s.bytesRead := by
  -- What is recorded is what the stream knows of its place, also after a failed fetch.
  have hclosed := s.isClosed_close (⟨cache, some handle⟩ : CursorView)
  have hbytes : (s.close (⟨cache, some handle⟩ : CursorView)).1.bytesRead = s.bytesRead := by
    rw [close_of_open hopen]
  rcases h.cursors_close hopen cache handle with hrecord | ⟨hzero, hsame⟩
  · refine ⟨_, hrecord, hserves.record h.bytesRead, ?_, ?_, hclosed, hbytes⟩
    · intro o ho
      rw [hserves.current.get?_record hserves.wellFormed]
      split
      · rfl
      · exact ho
    · intro _
      rw [hserves.current.get?_record hserves.wellFormed, if_pos rfl]
      rfl
  · exact ⟨_, hsame, hserves, fun _ ho => ho, fun hne => absurd hzero hne, hclosed, hbytes⟩

variable [LogBackend φ] {sure : Prop} {stored : List LogLine} {s : ByteStream (PagedSource φ)}

/-- What a skip finds is true of the log, and it lands there; where nothing is recorded it stays. The
rest of the line that is being read must be skipped as a whole. -/
theorem Stands.skip_of_clear {start : Place log} (h : s.Stands sure stored start)
    (hasc : Ascending log) (hsize : (render log).length < UInt64.size)
    (hserves : cache.Serves handle log) (n : UInt64)
    (hclear : (cache.get? handle.key (addOffset s.bytesRead n)).isSome →
      s.rest.length ≤ n.toNat) :
    ∃ q : Place log, (s.skip (⟨cache, some handle⟩ : CursorView) n).1 = .ok n ∧
      (s.skip (⟨cache, some handle⟩ : CursorView) n).2.Stands sure stored q ∧
      q.offset = if (cache.get? handle.key (addOffset s.bytesRead n)).isSome
        then (addOffset s.bytesRead n).toNat else start.offset := by
  have hlookup : OffsetMapper.resumePoint? (⟨cache, some handle⟩ : CursorView)
      (addOffset s.bytesRead n) = cache.get? handle.key (addOffset s.bytesRead n) :=
    hserves.current.lookup _
  rw [skip_of_open h.isOpen, hlookup]
  cases hget : cache.get? handle.key (addOffset s.bytesRead n) with
  | none => exact ⟨start, rfl, h, rfl⟩
  | some point =>
    -- The offset is recorded, and the record is true of the log.
    obtain ⟨q, hoffset, rfl⟩ := hserves.faithful _ point hget
    refine ⟨q, rfl, h.jump hasc ?_ hsize hoffset, hoffset.symm⟩
    have hskipped := hclear (by rw [hget]; rfl)
    have hend := h.offset_add_rest_le
    have hreached := h.marked.bytesRead
    have htarget := toNat_addOffset s.bytesRead n
    have hsmall : (render log).length < 18446744073709551616 := hsize
    omega

/-- From the begin of a log a skip lands on the recorded offset, or stays where it is. -/
theorem Stands.skip {start : Place log} (h : s.Stands sure stored start) (hr : s.rest = [])
    (hstart : start.offset = 0) (hsize : (render log).length < UInt64.size)
    (hserves : cache.Serves handle log) (n : UInt64) :
    ∃ q : Place log, (s.skip (⟨cache, some handle⟩ : CursorView) n).1 = .ok n ∧
      (s.skip (⟨cache, some handle⟩ : CursorView) n).2.Stands sure stored q ∧
      q.offset = if (cache.get? handle.key n).isSome then n.toNat else 0 := by
  -- The offset behind the skip is the number of bytes skipped.
  have hzero : s.bytesRead.toNat = 0 := h.marked.bytesRead.trans hstart
  have htarget : addOffset s.bytesRead n = n := by
    rw [show s.bytesRead = 0 from UInt64.toNat_inj.mp hzero, addOffset_zero]
  have hskip := h.skip_of_clear (h.ascending_of_begin hr hstart) hsize hserves n
    fun _ => by rw [hr]; exact Nat.zero_le _
  rwa [htarget, hstart] at hskip

end ByteStream

theorem isLog_storedThreeLines : IsLog (LogBackend.stored (⟨threeLines⟩ : StoredLog)) := isLog_threeLines

/-- A reader's hold on a cache that knows no offsets. -/
def freshHold : Handle × CursorCache := CursorCache.empty.hold ⟨"build", 1, none⟩

/-- The cache once a place of the three lines is recorded. -/
def recordedAt (p : Place threeLines) : CursorCache :=
  freshHold.2.record freshHold.1 (UInt64.ofNat p.offset) p.point

theorem serves_recordedAt (p : Place threeLines) :
    (recordedAt p).Serves freshHold.1 threeLines ∧
      (recordedAt p).get? freshHold.1.key (UInt64.ofNat p.offset) = some p.point := by
  have hserves : freshHold.2.Serves freshHold.1 threeLines :=
    CursorCache.serves_hold CursorCache.wellFormed_empty nofun
  have hoffset : (UInt64.ofNat p.offset).toNat = p.offset :=
    UInt64.toNat_ofNat_of_lt' (Nat.lt_of_le_of_lt p.offset_le (by decide))
  refine ⟨hserves.record hoffset, ?_⟩
  rw [recordedAt, hserves.current.get?_record hserves.wellFormed, if_pos rfl]

end RunLog
