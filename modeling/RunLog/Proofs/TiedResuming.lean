import RunLog.Proofs.Budget
import RunLog.Proofs.Following

namespace RunLog

open LogBackend

/-- The place lies in a run: behind a line, and before or within another line of the same id. -/
def Place.InRun {log : List LogLine} (p : Place log) : Prop :=
  ∃ id, lastId p.passed = some id ∧ p.ahead.head?.map LogLine.id = some id

section Place

variable {log : List LogLine} {p : Place log} {id : LineId}

theorem Place.beyond_eq (hord : Ordered log) (hid : lastId p.passed = some id) :
    beyond id log = beyond id p.ahead := by
  have hsplit := p.split
  have hpassed : Ordered p.passed := by
    rw [hsplit] at hord
    exact hord.sublist (List.sublist_append_left p.passed p.ahead)
  calc beyond id log
    _ = beyond id p.passed ++ beyond id p.ahead := by rw [← beyond_append, ← hsplit]
    _ = beyond id p.ahead := by rw [hpassed.beyond_lastId hid, List.nil_append]

/-- Outside a run all lines ahead lie behind the id of the last line passed. -/
theorem Place.beyond_ahead_of_not_inRun (hord : Ordered log) (hid : lastId p.passed = some id)
    (h : ¬ p.InRun) : beyond id p.ahead = p.ahead := by
  cases hahead : p.ahead with
  | nil => rfl
  | cons line more =>
    have hsplit := p.split
    rw [hahead] at hsplit
    rw [hsplit] at hord
    obtain ⟨-, hmore, hacross⟩ := List.pairwise_append.mp hord
    obtain ⟨last, hlast, rfl⟩ := Option.map_eq_some_iff.mp hid
    have hle : last.id ≤ line.id := hacross last (List.mem_of_getLast? hlast) line List.mem_cons_self
    rcases LineId.lt_or_eq_of_le hle with hlt | hsame
    · exact Ordered.beyond_eq_self hmore hlt
    · refine absurd ⟨last.id, hid, ?_⟩ h
      rw [hahead, List.head?_cons, Option.map_some, hsame]

end Place

namespace PagedSource

variable {φ : Type} [PageFetcher φ] [LogBackend φ] {s : PagedSource φ} {b q : Nat}

/-- A seek leaves less to page through, so that no bound ends what none would have ended before. -/
theorem drain_seekPast_of_one_page (hlog : IsTiedLog (stored s.fetcher)) (hsteady : Steady s.fetcher)
    (hp : 0 < s.limits.pageSize) (he : s.cursor.exhausted = false)
    (hb : s.cursor.linesEmitted + b = s.limits.maxLines)
    (hq : s.cursor.queriesIssued + q = s.limits.maxQueries)
    (hone : s.ahead.length ≤ s.limits.pageSize)
    (hend : (PageSource.drain s).2.1 = .ok .exhausted) (id : LineId) :
    (PageSource.drain (s.seekPast id)).2.1 = .ok .exhausted ∧
      (PageSource.drain (s.seekPast id)).1.flatMap Page.lines = beyond id s.ahead := by
  have hless : (beyond id s.ahead).length ≤ s.ahead.length := List.length_filter_le _ _
  have hall := drained_of_ordered hlog hsteady hp he hb hq
  have hrest : Drained (s.seekPast id) (kept s.limits.pageSize hp (s.seekPast id).ahead) b q :=
    drained_of_ordered (s := s.seekPast id) hlog hsteady hp
      ((s.cursor.passing_exhausted id).trans he)
      ((congrArg (· + b) (s.cursor.passing_linesEmitted id)).trans hb)
      ((congrArg (· + q) (s.cursor.passing_queriesIssued id)).trans hq)
  rw [kept_of_length_le hone] at hall
  rw [ahead_seekPast hlog.below, kept_of_length_le (Nat.le_trans hless hone)] at hrest
  have hbefore := hall.outcome
  rw [hend, Except.ok.injEq] at hbefore
  have hafter : (pagingEnd s.limits.pageSize (beyond id s.ahead).length b q).1 = .exhausted :=
    pagingEnd_exhausted_of_le hless hbefore.symm
  apply hrest.of_quiet hp
  intro breaker hbroken
  have hout := hrest.outcome
  rw [hbroken, Except.ok.injEq] at hout
  exact nomatch hout.trans hafter

end PagedSource

section Reopened

variable {φ : Type} [PageFetcher φ] [LogBackend φ]

/-- The lines of a fresh sequence over a log of one page, and those that are left of them behind an
id. -/
theorem gives_of_one_page (backend : φ) (hlog : IsTiedLog (stored backend))
    (hsteady : Steady backend) (start : LineId) (limits : Limits) (hpage : 0 < limits.pageSize)
    (hquiet : ∀ breaker, (PageSource.drain (PagedSource.start backend start limits)).2.1 ≠
      .ok (.circuitBroken breaker))
    (hone : (fromId start (stored backend)).length ≤ limits.pageSize) (marker : Bool) :
    let lines : LineSequence (PagedSource φ) := { source := .start backend start limits, marker }
    lines.Gives (fromId start (stored backend)) ∧
      ∀ id, (lines.skipTo id).Gives (beyond id (fromId start (stored backend))) := by
  intro lines
  have hdrained : PagedSource.Drained (.start backend start limits)
      (kept limits.pageSize hpage (fromId start (stored backend))) limits.maxLines
      limits.maxQueries :=
    PagedSource.drained_of_ordered hlog hsteady hpage rfl (Nat.zero_add _) (Nat.zero_add _)
  rw [kept_of_length_le hone] at hdrained
  obtain ⟨hend, hall⟩ := hdrained.of_quiet hpage hquiet
  refine ⟨LineSequence.gives_of_exhausted hend hall marker, fun id => ?_⟩
  obtain ⟨hend', hall'⟩ := PagedSource.drain_seekPast_of_one_page
    (s := .start backend start limits) hlog hsteady hpage rfl (Nat.zero_add _) (Nat.zero_add _)
    hone hend id
  exact LineSequence.gives_of_exhausted hend' hall' marker

open ByteStream in
/-- Two readers of a log that fits in one page: the first reads as far as it likes and is closed, the
second skips as many bytes. Stopped outside a run of one id both together give the log. From a line
end within a run the second gives the lines behind the run. -/
theorem resume_tied (backend : φ) (hlog : IsTiedLog (stored backend)) (hsteady : Steady backend)
    (start : LineId) (limits : Limits) (hpage : 0 < limits.pageSize)
    (hquiet : ∀ breaker, (PageSource.drain (PagedSource.start backend start limits)).2.1 ≠
      .ok (.circuitBroken breaker))
    {log : List LogLine} (hfrom : log = fromId start (stored backend))
    (hone : log.length ≤ limits.pageSize) (hsize : (render log).length < UInt64.size)
    (marker : Bool) (cache : CursorCache) (hcache : cache.WellFormed) (key : StreamKey)
    (hnew : cache.get? key 0 = none) (sizes : List Nat) :
    let lines : LineSequence (PagedSource φ) := { source := .start backend start limits, marker }
    let first := (ofLines lines).reads sizes
    let second := resumed lines cache key sizes
    first.2.1 = none ∧ ∃ p : Place log, p.offset = first.1.length ∧
      (¬ p.InRun → ∃ tail, second.Delivers tail ∧ first.1 ++ tail = render log) ∧
      ∀ id, lastId p.passed = some id → p.into = 0 →
        second.Delivers (render (beyond id p.ahead)) := by
  intro lines first second
  subst hfrom
  have hord : Ordered (fromId start (stored backend)) := hlog.ordered.sublist List.filter_sublist
  obtain ⟨hgives, hskip⟩ := gives_of_one_page backend hlog hsteady start limits hpage hquiet hone marker
  obtain ⟨hnone, p, -, hoffset, hprefix⟩ := (follows_ofLines hgives).reads hsize sizes
  have hstop : first.1.length = p.offset := (hoffset.trans (Nat.zero_add _)).symm
  refine ⟨hnone, p, hstop.symm, ?_, ?_⟩
  · intro hrun
    refine ⟨(render (fromId start (stored backend))).drop p.offset, ?_, ?_⟩
    · apply resumed_delivers_drop hgives hsize hcache hnew hstop
      intro id hid
      have hbehind := hskip id
      rwa [Place.beyond_eq hord hid, Place.beyond_ahead_of_not_inRun hord hid hrun] at hbehind
    · have hfirst := List.prefix_iff_eq_take.mp hprefix
      rw [hstop] at hfirst
      calc first.1 ++ (render (fromId start (stored backend))).drop p.offset
        _ = (render (fromId start (stored backend))).take p.offset ++ _ := congrArg (· ++ _) hfirst
        _ = render (fromId start (stored backend)) := List.take_append_drop _ _
  · intro id hid hinto
    have hbehind := hskip id
    rw [Place.beyond_eq hord hid] at hbehind
    exact resumed_delivers_of_lineEnd hgives hsize hcache hnew hstop hid hinto hbehind

end Reopened

open ByteStream

theorem quiet_tiedLines (breaker : Breaker) :
    (PageSource.drain (PagedSource.start (⟨tiedLines⟩ : StoredLog) .least {})).2.1 ≠
      .ok (.circuitBroken breaker) := by
  rw [(PagedSource.drain_of_short (s := .start (⟨tiedLines⟩ : StoredLog) .least {})
    isTiedLog_tiedLines.ordered trivial rfl (by decide) (by decide) (by decide)).1]
  exact nofun

theorem resume_tied_tiedLines :
    let lines : LineSequence (PagedSource StoredLog) := { source := .start ⟨tiedLines⟩ .least {} }
    ((ofLines lines).reads [1]).1 = [97] ∧
    ∃ tail, (resumed lines .empty ⟨"build", 1, none⟩ [1]).Delivers tail ∧
      97 :: tail = render tiedLines := by
  intro lines
  have hsize : (render tiedLines).length < UInt64.size := by decide
  obtain ⟨hgives, -⟩ := gives_of_one_page (⟨tiedLines⟩ : StoredLog) isTiedLog_tiedLines trivial .least
    {} (by decide) quiet_tiedLines (by decide) false
  have hread : ((ofLines lines).reads [1]).1 = [97] := reads_singleton hgives hsize 1
  obtain ⟨-, p, hoffset, hwhole, -⟩ := resume_tied (⟨tiedLines⟩ : StoredLog) isTiedLog_tiedLines
    trivial .least {} (by decide) quiet_tiedLines rfl (by decide) hsize false .empty
    CursorCache.wellFormed_empty ⟨"build", 1, none⟩ rfl [1]
  -- One byte was read, so the stop lies in the first line.
  obtain rfl : p = .inside [] ⟨⟨10⟩, "a"⟩ [⟨⟨10⟩, "b"⟩, ⟨⟨20⟩, "c"⟩] rfl 1 (by decide) := by
    apply Place.eq_of_offset_eq
    rw [hoffset]
    exact congrArg List.length hread
  obtain ⟨tail, hdelivers, htail⟩ := hwhole nofun
  rw [show ((ofLines _).reads [1]).1 = [97] from hread] at htail
  exact ⟨hread, tail, hdelivers, htail⟩

/-- A line that carries the highest id. -/
def lastLine : LogLine := ⟨.greatest, "z"⟩

/-- Nothing lies behind the highest id, so that a source that is moved there still brings its lines. -/
theorem gives_lastLine :
    let lines : LineSequence (PagedSource StoredLog) := { source := .start ⟨[lastLine]⟩ .least {} }
    lines.Gives [lastLine] ∧ (lines.skipTo .greatest).Gives [lastLine] := by
  intro lines
  have hord : Ordered [lastLine] := List.pairwise_singleton _ _
  obtain ⟨hend, hall⟩ := PagedSource.drain_of_short (s := lines.source) hord trivial rfl (by decide)
    (by decide) (by decide)
  obtain ⟨hend', hall'⟩ := PagedSource.drain_of_short (s := lines.source.seekPast .greatest) hord
    trivial rfl (by decide) (by decide) (by decide)
  exact ⟨LineSequence.gives_of_exhausted hend hall false,
    LineSequence.gives_of_exhausted hend' hall' false⟩

/-- Stopped between two lines of one id, the second reader never gets the other of them; stopped behind
a line that carries the highest id, it gets that line again. -/
theorem resume_loses_and_repeats :
    let tied : LineSequence (PagedSource StoredLog) := { source := .start ⟨tiedLines⟩ .least {} }
    let last : LineSequence (PagedSource StoredLog) := { source := .start ⟨[lastLine]⟩ .least {} }
    (Ordered tiedLines ∧ render tiedLines = [97, 10, 98, 10, 99, 10] ∧
      ((ofLines tied).reads [2]).1 = [97, 10] ∧
      (resumed tied .empty ⟨"build", 1, none⟩ [2]).Delivers [99, 10]) ∧
    (Ordered [lastLine] ∧ render [lastLine] = [122, 10] ∧
      ((ofLines last).reads [2]).1 = [122, 10] ∧
      (resumed last .empty ⟨"build", 1, none⟩ [2]).Delivers [122, 10]) := by
  intro tied last
  have hsize : (render tiedLines).length < UInt64.size := by decide
  have hsize' : (render [lastLine]).length < UInt64.size := by decide
  obtain ⟨htied, hskip⟩ := gives_of_one_page (⟨tiedLines⟩ : StoredLog) isTiedLog_tiedLines trivial
    .least {} (by decide) quiet_tiedLines (by decide) false
  obtain ⟨hlast, hagain⟩ := gives_lastLine
  have hread : ((ofLines tied).reads [2]).1 = [97, 10] := reads_singleton htied hsize 2
  have hread' : ((ofLines last).reads [2]).1 = [122, 10] := reads_singleton hlast hsize' 2
  refine ⟨⟨isTiedLog_tiedLines.ordered, by decide, hread, ?_⟩,
    List.pairwise_singleton _ _, by decide, hread', ?_⟩
  · exact resumed_delivers_of_lineEnd
      (p := .before [⟨⟨10⟩, "a"⟩] [⟨⟨10⟩, "b"⟩, ⟨⟨20⟩, "c"⟩] rfl) htied hsize
      CursorCache.wellFormed_empty rfl (congrArg List.length hread) rfl rfl (hskip ⟨10⟩)
  · exact resumed_delivers_of_lineEnd (p := .before [lastLine] [] rfl) hlast hsize'
      CursorCache.wellFormed_empty rfl (congrArg List.length hread') rfl rfl hagain

end RunLog
