import RunLog.Proofs.Endings
import RunLog.Proofs.Truncated

namespace RunLog

open LogBackend

namespace ByteStream

variable {σ : Type}

/-- Delivering bytes of a line keeps its id: as that of the current line, and then of the last one. -/
theorem last_deliver (s : ByteStream σ) (n : Nat) :
    (if (s.deliver n).2.rest = [] then (s.deliver n).2.lastLineId else (s.deliver n).2.currentId) =
      s.currentId := by
  by_cases hr : s.rest.drop n = []
  · simp [deliver, hr]
  · simp [deliver, hr]

variable [PageSource σ] {s : ByteStream σ} {begun ahead lines : List LogLine}

/-- An open stream that has begun the lines of the first list, and has those of the second to come. -/
structure Between (s : ByteStream σ) (begun ahead : List LogLine) : Prop where
  lines : s.lines.Gives ahead
  discard : s.discard = 0
  last : (if s.rest = [] then s.lastLineId else s.currentId) = lastId begun

theorem between_ofLines {seq : LineSequence σ} (h : seq.Gives lines) :
    (ofLines seq).Between [] lines := ⟨h, rfl, rfl⟩

theorem Between.read (h : s.Between begun ahead) (n : Nat) :
    ∃ data begun' ahead', (s.read n).1 = .ok data ∧ begun' ++ ahead' = begun ++ ahead ∧
      (s.read n).2.Between begun' ahead' := by
  have hopen := h.lines.isOpen
  by_cases hn : n = 0
  · rw [hn, read_zero hopen]
    exact ⟨[], begun, ahead, rfl, rfl, h⟩
  by_cases hr : s.rest = []
  · obtain ⟨hline, hmore⟩ := h.lines.nextLine
    rw [read_of_idle hopen hn hr, hline]
    cases ahead with
    | nil =>
      have hlast := h.last
      rw [if_pos hr] at hlast
      exact ⟨[], begun, [], rfl, rfl, hmore, rfl, hlast⟩
    | cons line ahead =>
      refine ⟨_, begun ++ [line], ahead, rfl, by simp, hmore, rfl, ?_⟩
      rw [lastId_concat]
      exact last_deliver _ n
  · have hlast := h.last
    rw [if_neg hr] at hlast
    rw [read_of_pending hopen hn hr]
    exact ⟨_, begun, ahead, rfl, rfl, h.lines, h.discard, (last_deliver s n).trans hlast⟩

theorem Between.reads (h : s.Between begun ahead) (sizes : List Nat) :
    ∃ begun' ahead', begun' ++ ahead' = begun ++ ahead ∧
      (s.reads sizes).2.2.Between begun' ahead' := by
  induction sizes generalizing s begun ahead with
  | nil => exact ⟨begun, ahead, rfl, h⟩
  | cons n sizes ih =>
    obtain ⟨data, begun', ahead', hread, hsplit, hbetween⟩ := h.read n
    obtain ⟨begun'', ahead'', hsplit', hlast⟩ := ih hbetween
    rw [reads_cons hread]
    exact ⟨begun'', ahead'', hsplit'.trans hsplit, hlast⟩

/-- A read that finds the end has all lines behind it. -/
theorem Between.ended (h : s.Between begun ahead) {n : Nat} (hn : n ≠ 0)
    (hend : (s.read n).1 = .ok []) : s.rest = [] ∧ ahead = [] := by
  have hfits : s.Fits := fits_of_discard h.discard
  obtain ⟨hrest, hlines⟩ := ((read_eq_nil_iff h.lines.isOpen hn).mp hend).resolve_right hfits.not_swallows
  rw [h.lines.hasNext.1, Except.ok.injEq, Bool.not_eq_false', List.isEmpty_iff] at hlines
  exact ⟨hrest, hlines⟩

theorem read_wholeLine {line : LogLine} (h : s.lines.Gives (line :: lines)) (hr : s.rest = [])
    (hd : s.discard = 0) :
    (s.read line.bytes.length).1 = .ok line.bytes ∧ (s.read line.bytes.length).2.lines.Gives lines ∧
      (s.read line.bytes.length).2.rest = [] ∧ (s.read line.bytes.length).2.discard = 0 := by
  obtain ⟨hline, hmore⟩ := h.nextLine
  rw [read_of_idle h.isOpen (Nat.ne_of_gt line.length_bytes_pos) hr, hline]
  -- The line is loaded as a whole, and the read takes all of it.
  have hrest : (s.loaded s.lines.nextLine.2 line).rest = line.bytes := by
    rw [loaded, hd]
    rfl
  refine ⟨?_, hmore, ?_, rfl⟩
  · change Except.ok ((s.loaded s.lines.nextLine.2 line).rest.take line.bytes.length) = _
    rw [hrest, List.take_length]
  · change (s.loaded s.lines.nextLine.2 line).rest.drop line.bytes.length = []
    rw [hrest, List.drop_length]

/-- Reads that have room for a line each deliver the lines one by one, and then find the end. -/
theorem reads_wholeLines (h : s.lines.Gives lines) (hr : s.rest = []) (hd : s.discard = 0) :
    (s.reads (lines.map fun line => line.bytes.length)).1 = render lines ∧
      ((s.reads (lines.map fun line => line.bytes.length)).2.2.read 1).1 = .ok [] := by
  induction lines generalizing s with
  | nil =>
    refine ⟨rfl, ?_⟩
    change (s.read 1).1 = .ok []
    rw [read_of_idle h.isOpen Nat.one_ne_zero hr, h.nextLine.1]
    rfl
  | cons line lines ih =>
    obtain ⟨hread, hgives, hrest, hnone⟩ := read_wholeLine h hr hd
    obtain ⟨hall, hend⟩ := ih hgives hrest hnone
    rw [List.map_cons, reads_cons hread, render_cons, hall]
    exact ⟨rfl, hend⟩

/-- The second of two streams. The first one read with these sizes and was closed, and this one has
skipped as many bytes as that one had counted. -/
def goingOn (first second : ByteStream σ) (cache : CursorCache) (key : StreamKey)
    (sizes : List Nat) : ByteStream σ :=
  let ended := (first.reads sizes).2.2
  ended.skipBehind second cache key ended.bytesRead

/-- Once the first stream has come to its end, the second one jumps behind its last line, however many
bytes it were. -/
theorem goingOn_eq {first second : LineSequence σ} (h : first.Gives lines)
    (ho : second.isClosed = false) {cache : CursorCache} (hcache : cache.WellFormed) (key : StreamKey)
    {id : LineId} (hid : lastId lines = some id) {sizes : List Nat} {n : Nat} (hn : n ≠ 0)
    (hend : (((ofLines first).reads sizes).2.2.read n).1 = .ok []) :
    goingOn (ofLines first) (ofLines second) cache key sizes =
      (ofLines second).jump ((ofLines first).reads sizes).2.2.bytesRead ⟨some id, 0⟩ := by
  obtain ⟨begun, ahead, hsplit, hbetween⟩ := (between_ofLines h).reads sizes
  rw [goingOn]
  generalize ((ofLines first).reads sizes).2.2 = ended at hend hbetween ⊢
  obtain ⟨hrest, rfl⟩ := hbetween.ended hn hend
  obtain rfl : begun = lines := by simpa using hsplit
  have hlast := hbetween.last
  rw [if_pos hrest, hid] at hlast
  -- The close records the last line, with nothing delivered of a next one.
  have hpoint : ended.resumePoint? = some ⟨some id, 0⟩ := by
    simp [resumePoint?, linePending, hrest, hlast, hbetween.discard]
  have hview := lookup_close_of_point hbetween.lines.isOpen hpoint (cache.isCurrent_hold key)
    (hcache.hold key)
  have htarget : addOffset (ofLines second).bytesRead ended.bytesRead = ended.bytesRead :=
    addOffset_zero _
  rw [skipBehind, skip_of_open ho, htarget, hview]

end ByteStream

namespace LineSequence

variable {φ : Type} [PageFetcher φ]

/-- What a sequence over a drained source gives: the lines, and a mark behind them where they were cut. -/
theorem gives_of_drained {source : PagedSource φ} {rest : List LogLine} {b q : Nat}
    (h : source.Drained rest b q) (marker : Bool) (high : Option LineId) :
    Gives ⟨source, [], .opened, marker, high⟩
      (rest.take (pagingReach source.limits.pageSize rest.length b q) ++
        markOf marker ((PageSource.drain source).1.foldl raised high)
          (.ok (pagingEnd source.limits.pageSize rest.length b q).1)) := by
  obtain ⟨hlines, herrors⟩ := drain_opened source marker high
  rw [h.emitted, h.outcome] at hlines
  rw [h.outcome] at herrors
  exact ⟨rfl, hlines, herrors⟩

end LineSequence

namespace Limits

/-- How many lines the bounds allow. -/
def reach (limits : Limits) : Nat := min limits.maxLines (limits.pageSize * limits.maxQueries)

/-- How many lines the bounds leave where the first page is passed over but counts. -/
def reachBehindPage (limits : Limits) : Nat :=
  min (limits.maxLines - min limits.pageSize limits.maxLines)
    (limits.pageSize * (limits.maxQueries - 1))

theorem reachBehindPage_pos_iff {limits : Limits} (hpage : 1 ≤ limits.pageSize) :
    0 < limits.reachBehindPage ↔ limits.pageSize < limits.maxLines ∧ 2 ≤ limits.maxQueries := by
  have hqueries : 0 < limits.pageSize * (limits.maxQueries - 1) ↔ 2 ≤ limits.maxQueries := by
    rw [Nat.mul_pos_iff_of_pos_left hpage]
    omega
  rw [reachBehindPage, Nat.lt_min, hqueries]
  omega

end Limits

variable {φ : Type}

/-- The lines of a log before any of them is fetched. -/
def freshLines (backend : φ) (start : LineId) (limits : Limits) (marker : Bool) :
    LineSequence (PagedSource φ) := { source := .start backend start limits, marker }

variable [PageFetcher φ] [LogBackend φ]

/-- Bounds that allow a line, and leave some lines of the log of a backend behind. -/
structure CutsShort (backend : φ) (start : LineId) (limits : Limits) (log : List LogLine) : Prop where
  isLog : IsLog (stored backend)
  steady : Steady backend
  pageSize_pos : 1 ≤ limits.pageSize
  maxQueries_pos : 1 ≤ limits.maxQueries
  maxLines_pos : 1 ≤ limits.maxLines
  log_eq : log = fromId start (stored backend)
  reach_lt : limits.reach < log.length

namespace CutsShort

open LineSequence

variable {backend : φ} {start : LineId} {limits : Limits} {log : List LogLine}

theorem firstPage_le_reach (h : CutsShort backend start limits log) :
    min limits.pageSize limits.maxLines ≤ limits.reach := by
  have hmul : limits.pageSize * 1 ≤ limits.pageSize * limits.maxQueries :=
    Nat.mul_le_mul_left _ h.maxQueries_pos
  rw [Limits.reach]
  omega

theorem pagesOver (h : CutsShort backend start limits log) :
    (PagedSource.start backend start limits).PagesOver True (stored backend) :=
  ⟨h.isLog, rfl, h.pageSize_pos, fun _ => h.steady⟩

theorem ascending (h : CutsShort backend start limits log) : Ascending log := by
  rw [h.log_eq]
  exact (h.isLog.fromId start).ascending

/-- No line of the first page lies behind the last line that the bounds allow, and the others that do
are those behind the cut. -/
theorem beyond_firstPage (h : CutsShort backend start limits log) {id : LineId}
    (hid : lastId (log.take limits.reach) = some id) :
    beyond id (log.take (min limits.pageSize limits.maxLines)) = [] ∧
      beyond id (log.drop (min limits.pageSize limits.maxLines)) = log.drop limits.reach := by
  have hsplit := List.take_append_drop limits.reach log
  have hparts := h.ascending
  rw [← hsplit] at hparts
  have hcut : Ascending (log.take limits.reach) := hparts.sublist (List.sublist_append_left _ _)
  have hnone : beyond id (log.take (min limits.pageSize limits.maxLines)) = [] := by
    have hpage : (log.take (min limits.pageSize limits.maxLines)).Sublist (log.take limits.reach) :=
      (List.take_prefix_take_left h.firstPage_le_reach).sublist
    have hbeyond : (beyond id (log.take (min limits.pageSize limits.maxLines))).Sublist
        (beyond id (log.take limits.reach)) := hpage.filter _
    rw [hcut.ordered.beyond_lastId hid] at hbeyond
    exact List.sublist_nil.mp hbeyond
  refine ⟨hnone, ?_⟩
  calc beyond id (log.drop (min limits.pageSize limits.maxLines))
    _ = beyond id (log.take (min limits.pageSize limits.maxLines)) ++
        beyond id (log.drop (min limits.pageSize limits.maxLines)) := by rw [hnone, List.nil_append]
    _ = beyond id log := by rw [← beyond_append, List.take_append_drop]
    _ = log.drop limits.reach := by rw [← hsplit, hparts.beyond_lastId hid, hsplit]

/-- What looking ahead makes of the fresh sequence: the first page is at hand and counted against the
bounds, and the rest of the log is owed. -/
theorem hasNext_eq (h : CutsShort backend start limits log) (marker : Bool) :
    ∃ page source, (freshLines backend start limits marker).hasNext =
        (.ok true, ⟨source, page.lines, .opened, marker, raised none page⟩) ∧
      page.lines = log.take (min limits.pageSize limits.maxLines) ∧
      source.PagesOver True (stored backend) ∧ source.limits = limits ∧
      source.cursor.exhausted = false ∧ source.cursor.queriesIssued = 1 ∧
      source.cursor.linesEmitted = min limits.pageSize limits.maxLines ∧
      source.Owes (log.drop (min limits.pageSize limits.maxLines)) := by
  have hahead : (PagedSource.start backend start limits).ahead = log := h.log_eq.symm
  have hbr : (PagedSource.start backend start limits).cursor.breaker? limits = none :=
    Cursor.breaker?_eq_none_iff.mpr ⟨h.maxLines_pos, h.maxQueries_pos⟩
  have hnext := @hasNext_of_opened _ _ (freshLines backend start limits marker) rfl rfl
  have hfirst := h.firstPage_le_reach
  have hmore := h.reach_lt
  obtain ⟨hissued, ⟨e, -, hsure⟩ | ⟨-, hnil, -⟩ | ⟨page, k, hk, hf, htake, hne, hcount, hend, howes⟩⟩ :=
    PagedSource.fetchNext_of_room h.pagesOver rfl hbr
  · exact absurd trivial hsure
  · rw [hahead] at hnil
    rw [hnil] at hmore
    exact absurd hmore (Nat.not_lt_zero _)
  · obtain rfl : k = min limits.pageSize limits.maxLines := hk
    rw [hahead] at htake howes hend
    rw [PagedSource.fetchNext_paged, show (freshLines backend start limits marker).source =
      .start backend start limits from rfl, hf] at hnext
    have hbuffer := @hasNext_of_buffer_ne_nil _ _
      ⟨(PagedSource.start backend start limits).fetchNext.2, page.lines, .opened, marker,
        raised none page⟩ hne
    have hlength : page.lines.length = min limits.pageSize limits.maxLines := by
      rw [htake, List.length_take]
      omega
    -- A page that is full or cut is not known to be the last.
    have hopen : (PagedSource.start backend start limits).fetchNext.2.cursor.exhausted = false := by
      rw [← Bool.not_eq_true, hend]
      change ¬ (log.length < limits.pageSize ∧ log.length ≤ limits.maxLines - 0)
      omega
    refine ⟨page, _, hnext.trans hbuffer, htake, h.pagesOver.fetchNext,
      (PagedSource.fetched _).limits_eq, hopen, hissued, ?_, howes⟩
    rw [hcount, hlength]
    exact Nat.zero_add _

/-- The opened log gives the lines that the bounds allow, and a mark behind them. -/
theorem gives (h : CutsShort backend start limits log) (marker : Bool) :
    (freshLines backend start limits marker).hasNext.2.Gives
      (log.take limits.reach ++ if marker then [markBehind (log.take limits.reach)] else []) := by
  have howes : (PagedSource.start backend start limits).Owes log := .inl h.log_eq.symm
  have hdrained := PagedSource.drained_of_owes h.pagesOver howes rfl
    (Nat.zero_add limits.maxLines) (Nat.zero_add limits.maxQueries)
  have hreach : pagingReach limits.pageSize log.length limits.maxLines limits.maxQueries =
      limits.reach := Nat.min_eq_right (Nat.le_of_lt h.reach_lt)
  have hbroken : ∃ breaker, (pagingEnd limits.pageSize log.length limits.maxLines
      limits.maxQueries).1 = .circuitBroken breaker := by
    refine (pagingEnd_cases ..).resolve_left fun hend => ?_
    have hall := pagingReach_of_exhausted h.pageSize_pos hend
    have hmore := h.reach_lt
    omega
  obtain ⟨breaker, hbroken⟩ := hbroken
  have hcut : Ordered (log.take limits.reach) :=
    (h.ascending.sublist (List.take_sublist _ _)).ordered
  have hemitted := hdrained.emitted
  have hgives := gives_of_drained hdrained marker none
  change _ = log.take (pagingReach limits.pageSize _ _ _) at hemitted
  change Gives _ (log.take (pagingReach limits.pageSize _ _ _) ++
    markOf marker _ (.ok (pagingEnd limits.pageSize _ _ _).1)) at hgives
  rw [hreach] at hemitted hgives
  rw [foldl_raised_none, hemitted, hcut.max?_ids, hbroken] at hgives
  exact hgives.hasNext.2

/-- Skipped behind those lines it goes on with lines behind the cut, as far as the bounds still reach. -/
theorem gives_skipTo (h : CutsShort backend start limits log) (marker : Bool) {id : LineId}
    (hid : lastId (log.take limits.reach) = some id) :
    ∃ high, ((freshLines backend start limits marker).hasNext.2.skipTo id).Gives
      ((log.drop limits.reach).take limits.reachBehindPage ++
        markOf marker high (.ok (pagingEnd limits.pageSize (log.drop limits.reach).length
          (limits.maxLines - min limits.pageSize limits.maxLines) (limits.maxQueries - 1)).1)) := by
  obtain ⟨page, source, hnext, hpage, hpages, hlimits, hopen, hissued, hcount, howes⟩ :=
    h.hasNext_eq marker
  obtain ⟨hnone, hbehind⟩ := h.beyond_firstPage hid
  have hpageAsc : Ascending page.lines := hpage ▸ h.ascending.sublist (List.take_sublist _ _)
  have hbuffer : page.lines.dropWhile (fun line => line.id ≤ id) = [] := by
    rw [hpageAsc.ordered.dropWhile_eq_beyond, hpage, hnone]
  have howes' : (source.seekPast id).Owes (log.drop limits.reach) :=
    hbehind ▸ howes.seekPast hpages id
  -- The page and its query count, though the page is passed over.
  have hroom : (source.seekPast id).cursor.linesEmitted +
      (limits.maxLines - min limits.pageSize limits.maxLines) = (source.seekPast id).limits.maxLines := by
    change (source.cursor.passing id).linesEmitted + _ = source.limits.maxLines
    rw [Cursor.passing_linesEmitted, hcount, hlimits]
    omega
  have hqueries : (source.seekPast id).cursor.queriesIssued + (limits.maxQueries - 1) =
      (source.seekPast id).limits.maxQueries := by
    change (source.cursor.passing id).queriesIssued + _ = source.limits.maxQueries
    have hpos := h.maxQueries_pos
    rw [Cursor.passing_queriesIssued, hissued, hlimits]
    omega
  have hdrained := PagedSource.drained_of_owes (hpages.seekPast id) howes'
    ((source.cursor.passing_exhausted id).trans hopen) hroom hqueries
  have hgives := gives_of_drained hdrained marker (raised none page)
  have hreach : (log.drop limits.reach).take (pagingReach limits.pageSize
      (log.drop limits.reach).length (limits.maxLines - min limits.pageSize limits.maxLines)
      (limits.maxQueries - 1)) = (log.drop limits.reach).take limits.reachBehindPage := by
    rw [pagingReach, Nat.min_comm, ← List.take_take, List.take_length]
    rfl
  rw [show (source.seekPast id).limits = limits from hlimits, hreach] at hgives
  rw [hnext]
  change ∃ high, Gives ⟨source.seekPast id, page.lines.dropWhile (fun line => line.id ≤ id), .opened,
    marker, raised none page⟩ _
  rw [hbuffer]
  exact ⟨_, hgives⟩

theorem opening_eq (h : CutsShort backend start limits log) (options : StreamOptions) :
    Opening.ofSource (PagedSource.start backend start limits) options = .opened (.ofStream (.ofLines
      (freshLines backend start limits options.marker).hasNext.2) options.tailKb) := by
  obtain ⟨page, source, hnext, -⟩ := h.hasNext_eq options.marker
  have hfresh : hasNext ⟨PagedSource.start backend start limits, [], .opened, options.marker, none⟩ =
      _ := hnext
  rw [Opening.ofSource, hfresh, hnext]

/-- The last line that the first stream gives, be it the mark or not, has the id of the last line that
the bounds allow. -/
theorem exists_lastId (h : CutsShort backend start limits log) (marker : Bool) :
    ∃ id, lastId (log.take limits.reach) = some id ∧ lastId (log.take limits.reach ++
      if marker then [markBehind (log.take limits.reach)] else []) = some id := by
  have hpos : 0 < (log.take limits.reach).length := by
    have hfirst := h.firstPage_le_reach
    have hpage := h.pageSize_pos
    have hlines := h.maxLines_pos
    have hmore := h.reach_lt
    rw [List.length_take]
    omega
  cases hid : lastId (log.take limits.reach) with
  | none =>
    have hnil : log.take limits.reach = [] := by simpa [lastId] using hid
    rw [hnil] at hpos
    exact absurd hpos (Nat.lt_irrefl 0)
  | some id =>
    refine ⟨id, rfl, ?_⟩
    cases marker with
    | false => exact (congrArg lastId (List.append_nil _)).trans hid
    | true =>
      rw [if_pos rfl, lastId_concat, markBehind, hid]
      rfl

theorem goingOn_delivers (h : CutsShort backend start limits log) (marker : Bool) {cache : CursorCache}
    (hcache : cache.WellFormed) (key : StreamKey) {sizes : List Nat} {n : Nat} (hn : n ≠ 0) :
    let opened : ByteStream (PagedSource φ) := .ofLines (freshLines backend start limits marker).hasNext.2
    ((opened.reads sizes).2.2.read n).1 = .ok [] →
    (opened.goingOn opened cache key sizes).Delivers
      (render ((log.drop limits.reach).take limits.reachBehindPage ++ markOf marker none
        (.ok (pagingEnd limits.pageSize (log.drop limits.reach).length
          (limits.maxLines - min limits.pageSize limits.maxLines) (limits.maxQueries - 1)).1))) := by
  intro opened hend
  obtain ⟨id, hid, hlast⟩ := h.exists_lastId marker
  have hgives := h.gives marker
  obtain ⟨high, hskipped⟩ := h.gives_skipTo marker hid
  rw [ByteStream.goingOn_eq hgives hgives.isOpen hcache key hlast hn hend, render_append,
    render_markOf _ none high, ← render_append]
  exact ByteStream.delivers_of_gives hskipped rfl rfl

end CutsShort

open LineSequence in
/-- Reading on where the bounds cut a log short. The first stream is read to its end and closed, and the
second one, opened alike, skips as many bytes as the first one had counted. Of the lines behind the cut
it delivers the first ones, as many as the bounds leave behind the page that was fetched at its
opening, and a mark if they cut the log short again. At least one line comes exactly if a page does not
use up the bound on lines and more than one query is allowed. -/
theorem resume_within_limits (backend : φ) (hlog : IsLog (stored backend)) (hsteady : Steady backend)
    (start : LineId) (limits : Limits) (hpage : 1 ≤ limits.pageSize) (hqueries : 1 ≤ limits.maxQueries)
    (hlines : 1 ≤ limits.maxLines) (options : StreamOptions) (cache : CursorCache)
    (hcache : cache.WellFormed) (key : StreamKey) {log : List LogLine}
    (hfrom : log = fromId start (stored backend)) (hmore : limits.reach < log.length) :
    let P := limits.pageSize
    let Q := limits.maxQueries
    let M := limits.maxLines
    let cut := log.take limits.reach
    let behind := log.drop limits.reach
    let next := behind.take limits.reachBehindPage
    ∃ opened, Opening.ofSource (PagedSource.start backend start limits) options = .opened opened ∧
      opened.stream.Delivers (render (cut ++ if options.marker then [markBehind cut] else [])) ∧
      (∀ sizes n, n ≠ 0 → ((opened.stream.reads sizes).2.2.read n).1 = .ok [] →
        (opened.stream.goingOn opened.stream cache key sizes).Delivers (render (next ++
          markOf options.marker none (.ok (pagingEnd P behind.length (M - min P M) (Q - 1)).1)))) ∧
      (next ≠ [] ↔ P < M ∧ 2 ≤ Q) := by
  intro P Q M cut behind next
  have h : CutsShort backend start limits log :=
    ⟨hlog, hsteady, hpage, hqueries, hlines, hfrom, hmore⟩
  refine ⟨_, h.opening_eq options, ?_, fun sizes n hn hend => ?_, ?_⟩
  · exact ByteStream.delivers_of_gives (h.gives options.marker) rfl rfl
  · exact h.goingOn_delivers options.marker hcache key hn hend
  · have hbehind : behind ≠ [] := by
      apply List.ne_nil_of_length_pos
      rw [List.length_drop]
      omega
    rw [← Limits.reachBehindPage_pos_iff hpage, Ne, List.take_eq_nil_iff, not_or, and_iff_left hbehind]
    exact (Nat.pos_iff_ne_zero).symm

section ThreeLines

open LineSequence

theorem resume_within_limits_threeLines :
    ∃ opened, Opening.ofSource (PagedSource.start (⟨threeLines⟩ : StoredLog) .least ⟨1, 3, 2⟩) {} =
        .opened opened ∧
      (opened.stream.reads [4, 4, 4]).1 = render [⟨⟨10⟩, "one"⟩, ⟨⟨20⟩, "two"⟩, ⟨⟨20⟩, markerText⟩] ∧
      (opened.stream.goingOn opened.stream .empty ⟨"build", 1, none⟩ [4, 4, 4]).Delivers
        (render [⟨⟨30⟩, "three"⟩, ⟨.least, markerText⟩]) := by
  have h : CutsShort (⟨threeLines⟩ : StoredLog) .least ⟨1, 3, 2⟩ threeLines :=
    ⟨isLog_storedThreeLines, trivial, by decide, by decide, by decide, rfl, by decide⟩
  obtain ⟨opened, hopened, -, hnext, -⟩ := resume_within_limits (⟨threeLines⟩ : StoredLog)
    isLog_storedThreeLines trivial .least ⟨1, 3, 2⟩ (by decide) (by decide) (by decide) {} .empty
    CursorCache.wellFormed_empty ⟨"build", 1, none⟩ rfl (show _ < threeLines.length by decide)
  obtain rfl := Opening.opened.inj ((h.opening_eq {}).symm.trans hopened)
  obtain ⟨hread, hend⟩ := ByteStream.reads_wholeLines (s := .ofLines _) (h.gives true) rfl rfl
  exact ⟨_, hopened, hread, hnext [4, 4, 4] 1 (by decide) hend⟩

/-- Where the bound allows one line, two lines lie behind the cut, and all that the second stream delivers
is a mark. -/
theorem no_progress :
    threeLines.drop (Limits.reach ⟨2, 5, 1⟩) = [⟨⟨20⟩, "two"⟩, ⟨⟨30⟩, "three"⟩] ∧
    ∃ opened, Opening.ofSource (PagedSource.start (⟨threeLines⟩ : StoredLog) .least ⟨2, 5, 1⟩) {} =
        .opened opened ∧
      (opened.stream.reads [4, 4]).1 = render [⟨⟨10⟩, "one"⟩, ⟨⟨10⟩, markerText⟩] ∧
      ((opened.stream.reads [4, 4]).2.2.read 1).1 = .ok [] ∧
      (opened.stream.goingOn opened.stream .empty ⟨"build", 1, none⟩ [4, 4]).Delivers
        (render [⟨.least, markerText⟩]) := by
  have h : CutsShort (⟨threeLines⟩ : StoredLog) .least ⟨2, 5, 1⟩ threeLines :=
    ⟨isLog_storedThreeLines, trivial, by decide, by decide, by decide, rfl, by decide⟩
  obtain ⟨hread, hend⟩ := ByteStream.reads_wholeLines (s := .ofLines _) (h.gives true) rfl rfl
  refine ⟨rfl, _, h.opening_eq {}, hread, hend, ?_⟩
  exact h.goingOn_delivers true CursorCache.wellFormed_empty ⟨"build", 1, none⟩ Nat.one_ne_zero hend

end ThreeLines

end RunLog
