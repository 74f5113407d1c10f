import RunLog.Proofs.Budget
import RunLog.Proofs.Landing

namespace RunLog

open LogBackend

namespace PagedSource

variable {φ : Type} [PageFetcher φ] [LogBackend φ]

/-- Where no lines are asked for, none come. -/
theorem fetchNext_of_no_page {s : PagedSource φ} (hp : s.limits.pageSize = 0) {page : Page}
    (hf : s.fetchNext.1 = .ok (.page page)) : page.lines = [] := by
  have hfetched := s.fetched
  have hlines := lines_fetch s.fetcher s.cursor.windowStart s.limits.pageSize
  rw [hf] at hfetched
  generalize s.fetchNext.2 = t at hfetched
  generalize hanswer : (Except.ok (.page page) : Except RetrievalError PageOutcome) = answer at hfetched
  cases hfetched with
  | ended => cases hanswer
  | broken => cases hanswer
  | failed => cases hanswer
  | loaded fetched fetcher asked he hb hfetch ha =>
    have hnil : fetched.lines = [] := by rw [hlines fetched (by rw [hfetch]), hp, List.take_zero]
    split at hanswer
    · cases hanswer
    · cases hanswer
      rw [hnil, Cursor.emitted, Cursor.arrange_of_ordered .nil, List.take_nil]

theorem drain_of_no_page (s : PagedSource φ) (hp : s.limits.pageSize = 0) :
    (PageSource.drain s).1.flatMap Page.lines = [] := by
  by_cases hf : ∃ page, (PageSource.fetchNext s).1 = .ok (.page page)
  · obtain ⟨page, hf⟩ := hf
    have hlt := PageSource.fetchesLeft_lt s page hf
    have hrest := drain_of_no_page s.fetchNext.2 (by rw [s.fetched.limits_eq, hp])
    rw [PageSource.drain_of_page hf, List.flatMap_cons, fetchNext_of_no_page hp hf]
    exact hrest
  · rw [PageSource.drain_of_end fun page hp => hf ⟨page, hp⟩]
    rfl
termination_by PageSource.fetchesLeft s

/-- Whatever the bounds are, a steady backend brings the first lines of its log. -/
theorem emitted_prefix {backend : φ} (hlog : IsLog (stored backend)) (hsteady : Steady backend)
    (start : LineId) (limits : Limits) {log : List LogLine}
    (hfrom : log = fromId start (stored backend)) :
    (PageSource.drain (PagedSource.start backend start limits)).1.flatMap Page.lines <+: log := by
  rcases Nat.eq_zero_or_pos limits.pageSize with hp | hp
  · rw [drain_of_no_page (PagedSource.start backend start limits) hp]
    exact List.nil_prefix
  · have hpages : PagesOver True (stored backend) (PagedSource.start backend start limits) :=
      ⟨hlog, rfl, hp, fun _ => hsteady⟩
    have hdrained := drained_of_owes hpages (.inl rfl) rfl (Nat.zero_add _) (Nat.zero_add _)
    rw [hfrom, hdrained.emitted]
    exact List.take_prefix _ _

end PagedSource

namespace LineSequence

/-- The line behind the last one of a log that was cut short. -/
def markBehind (lines : List LogLine) : LogLine := ⟨(lastId lines).getD .least, markerText⟩

theorem length_markBehind (lines : List LogLine) : (markBehind lines).bytes.length = 4 := by
  change (LogLine.bytes ⟨.least, markerText⟩).length = 4
  decide

/-- The mark carries the id of the last line before it, so behind the mark come the lines behind that
line; without a line before it, it hides a line of the least id. -/
theorem behindPage_mark {cut behind : List LogLine} (h : Ascending (cut ++ behind)) :
    behindPage (cut ++ [markBehind cut]) (cut ++ behind) =
      if cut = [] then beyond .least (cut ++ behind) else behind := by
  have hmark : (markBehind cut).id = (lastId cut).getD .least := rfl
  rw [behindPage, lastId_concat, hmark]
  cases hid : lastId cut with
  | none =>
    have hnil : cut = [] := by simpa [lastId] using hid
    rw [if_pos hnil]
    rfl
  | some id =>
    have hne : cut ≠ [] := by
      intro hnil
      rw [hnil, lastId_nil] at hid
      cases hid
    have hbehind := h.behindPage_append
    rw [behindPage, hid] at hbehind
    rw [if_neg hne]
    exact hbehind

theorem gives_of_broken {σ : Type} [PageSource σ] {source : σ} {breaker : Breaker}
    (hend : (PageSource.drain source).2.1 = .ok (.circuitBroken breaker))
    {lines : List LogLine} (hlines : (PageSource.drain source).1.flatMap Page.lines = lines)
    (hord : Ordered lines) :
    Gives { source, marker := true } (lines ++ [markBehind lines]) := by
  obtain ⟨hall, herrors⟩ := drain_opened source true none
  rw [hend, foldl_raised_none, hlines, hord.max?_ids] at hall
  rw [hend] at herrors
  exact ⟨rfl, hall, herrors⟩

end LineSequence

namespace ByteStream

open LineSequence

variable {φ : Type} [PageFetcher φ] [LogBackend φ] {stored cut log : List LogLine}
  {first second : LineSequence (PagedSource φ)} {cache : CursorCache} {key : StreamKey}
  {sizes : List Nat}

/-- Whatever the first stream delivered, the second one goes on with those lines of its log that lie
behind the last line passed, and passes over as many bytes as the first one delivered of the line it
was in. -/
theorem gives_resumedFrom (hcut : first.Gives cut) (hlog : Yields True stored second log)
    (ho : second.isClosed = false) (hsize : (render cut).length < UInt64.size)
    (hcache : cache.WellFormed) (hnew : cache.get? key 0 = none) {p : Place cut}
    (hstop : ((ofLines first).reads sizes).1.length = p.offset)
    (hquiet : (resumedFrom first second cache key
      sizes).lines.drain.2.2.source.cursor.tripped = none) :
    let resumed := resumedFrom first second cache key sizes
    resumed.lines.Gives (behindPage p.passed log) ∧ resumed.rest = [] ∧ resumed.discard = p.into := by
  intro resumed
  change resumed.lines.drain.2.2.source.cursor.tripped = none at hquiet
  rcases resumedFrom_eq hcut ho hsize hcache hnew hstop with hjump | ⟨hzero, hfresh⟩
  · rw [show resumed = _ from hjump] at hquiet ⊢
    have hoffset : (UInt64.ofNat p.offset).toNat = p.offset :=
      UInt64.toNat_ofNat_of_lt' (Nat.lt_of_le_of_lt p.offset_le hsize)
    have hlines := yields_jump (s := ofLines second) hlog (UInt64.ofNat p.offset) p
    exact ⟨hlines.gives ((isClosed_jump _ _ _).trans ho) hquiet, rfl,
      ((ofLines second).markedAt_jump hsize hoffset).discard_eq rfl⟩
  · rw [show resumed = _ from hfresh] at hquiet ⊢
    obtain ⟨hpassed, hinto⟩ := Place.passed_of_offset_eq_zero hzero
    rw [hpassed, hinto]
    exact ⟨hlog.gives ho hquiet, rfl, rfl⟩

theorem roomy_resumedFrom (h : second.source.Roomy stored) :
    (resumedFrom first second cache key sizes).lines.source.Roomy stored :=
  roomy_skip (s := ofLines second) h _ _

/-- What is resumed of a log that was cut short behind some lines. The mark was not begun or was
delivered as a whole: then all lines behind the cut come, but for a line of the least id if nothing
came before the mark. Some bytes of the mark were delivered: then as many bytes are missing from the
first line behind the cut. -/
theorem resume_truncated (backend : φ) (hlog : IsLog (LogBackend.stored backend))
    (hsteady : Steady backend) (start : LineId) (limits : Limits) {breaker : Breaker}
    (hbroken : (PageSource.drain (PagedSource.start backend start limits)).2.1 =
      .ok (.circuitBroken breaker))
    {log : List LogLine} (hfrom : log = fromId start (LogBackend.stored backend))
    (hsize : (render log).length + 4 < UInt64.size) (others : Limits) (hpage : 1 ≤ others.pageSize)
    (marker : Bool) (cache : CursorCache) (hcache : cache.WellFormed) (key : StreamKey)
    (hnew : cache.get? key 0 = none) (sizes : List Nat) :
    let cut := (PageSource.drain (PagedSource.start backend start limits)).1.flatMap Page.lines
    let behind := log.drop cut.length
    let first : LineSequence (PagedSource φ) :=
      { source := .start backend start limits, marker := true }
    let second : LineSequence (PagedSource φ) := { source := .start backend start others, marker }
    let head := (ofLines first).reads sizes
    let resumed := resumedFrom first second cache key sizes
    log = cut ++ behind ∧ head.2.1 = none ∧ head.1 <+: render (cut ++ [markBehind cut]) ∧
    ((render cut).length ≤ head.1.length →
      resumed.lines.drain.2.2.source.cursor.tripped = none →
      (head.1.length = (render cut).length → resumed.Delivers (render behind)) ∧
      (head.1.length = (render cut).length + 4 →
        resumed.Delivers (render (if cut = [] then beyond .least log else behind))) ∧
      ∀ n, head.1.length = (render cut).length + n → n < 4 →
        ∀ sizes, (resumed.reads sizes).2.1 = none ∧
          (resumed.reads sizes).1 <+: passingOver n behind) := by
  intro cut behind first second head resumed
  have hasc : Ascending log := hfrom ▸ (hlog.fromId start).ascending
  have hsplit : cut ++ behind = log :=
    List.prefix_iff_eq_append.mp (PagedSource.emitted_prefix hlog hsteady start limits hfrom)
  have hparts : Ascending (cut ++ behind) := hsplit ▸ hasc
  have hbehind : behindPage cut log = behind := by
    rw [← hsplit]
    exact hparts.behindPage_append
  have hgives : first.Gives (cut ++ [markBehind cut]) :=
    gives_of_broken hbroken rfl (hparts.sublist (List.sublist_append_left _ _)).ordered
  have hwhole : (render (cut ++ [markBehind cut])).length = (render cut).length + 4 := by
    rw [render_append, List.length_append, render_cons, render_nil, List.append_nil,
      length_markBehind]
  have hfits : (render (cut ++ [markBehind cut])).length < UInt64.size := by
    rw [← hsplit, render_append, List.length_append] at hsize
    omega
  obtain ⟨hnone, p, -, hoffset, hprefix⟩ := (follows_ofLines hgives).reads hfits sizes
  have hstop : head.1.length = p.offset := (hoffset.trans (Nat.zero_add _)).symm
  refine ⟨hsplit.symm, hnone, hprefix, fun hpast hquiet => ?_⟩
  have hlog' : Yields True (LogBackend.stored backend) second log :=
    hfrom ▸ Yields.start hlog (fun _ => hsteady) start hpage marker
  obtain ⟨hlines, hrest, hdiscard⟩ :=
    gives_resumedFrom hgives hlog' rfl hfits hcache hnew hstop hquiet
  refine ⟨fun hat => ?_, fun hat => ?_, fun n hat hn sizes => ?_⟩
  · -- The stop is the place before the mark.
    obtain rfl : p = .before cut [markBehind cut] rfl :=
      Place.eq_of_offset_eq (hstop.symm.trans hat)
    rw [← hbehind]
    exact delivers_of_gives hlines hrest hdiscard
  · -- The mark was passed.
    obtain rfl : p = .before (cut ++ [markBehind cut]) [] (List.append_nil _).symm :=
      Place.eq_of_offset_eq (hstop.symm.trans (hat.trans hwhole.symm))
    have hmark := behindPage_mark hparts
    rw [hsplit] at hmark
    rw [← hmark]
    exact delivers_of_gives hlines hrest hdiscard
  · -- The stop lies in the mark.
    obtain rfl : p = .inside cut (markBehind cut) [] rfl n (by rw [length_markBehind]; exact hn) :=
      Place.eq_of_offset_eq (hstop.symm.trans hat)
    have hreads := reads_of_gives hlines sizes
    rw [hrest, List.nil_append, hdiscard] at hreads
    rw [← hbehind]
    exact hreads

section ThreeLines

/-- Three lines of which a bound allows the first. -/
def cutShort : LineSequence (PagedSource StoredLog) :=
  { source := .start ⟨threeLines⟩ .least ⟨2, 5, 1⟩, marker := true }

/-- All of them. -/
def uncut : LineSequence (PagedSource StoredLog) := { source := .start ⟨threeLines⟩ .least {} }

theorem drain_cutShort :
    (PageSource.drain cutShort.source).2.1 = .ok (.circuitBroken .maxLines) ∧
      (PageSource.drain cutShort.source).1.flatMap Page.lines = [⟨⟨10⟩, "one"⟩] := by
  have hpages : PagedSource.PagesOver True threeLines cutShort.source :=
    ⟨isLog_threeLines, rfl, by decide, fun _ => trivial⟩
  have howes : cutShort.source.Owes threeLines := .inl rfl
  have hdrained := PagedSource.drained_of_owes hpages howes rfl (Nat.zero_add 1) (Nat.zero_add 5)
  exact ⟨hdrained.outcome.trans rfl, hdrained.emitted.trans rfl⟩

theorem gives_cutShort : cutShort.Gives [⟨⟨10⟩, "one"⟩, ⟨⟨10⟩, markerText⟩] :=
  gives_of_broken drain_cutShort.1 drain_cutShort.2 (List.pairwise_singleton _ _)

theorem roomy_uncut : uncut.source.Roomy threeLines :=
  PagedSource.roomy_start isLog_storedThreeLines trivial .least (by decide) (by decide) (by decide)

theorem yields_uncut : Yields True threeLines uncut threeLines :=
  Yields.start isLog_storedThreeLines (fun _ => trivial) .least (by decide) false

theorem resume_truncated_threeLines :
    ((ofLines cutShort).reads [4]).1 = [111, 110, 101, 10] ∧
    (resumedFrom cutShort uncut .empty ⟨"build", 1, none⟩ [4]).Delivers
      (render (threeLines.drop 1)) := by
  obtain ⟨hbroken, hlines⟩ := drain_cutShort
  have hread : ((ofLines cutShort).reads [4]).1 = [111, 110, 101, 10] :=
    reads_singleton gives_cutShort (by decide) 4
  have hstop : ((ofLines cutShort).reads [4]).1.length =
      (render ((PageSource.drain cutShort.source).1.flatMap Page.lines)).length := by
    rw [hread, hlines]
    decide
  obtain ⟨-, -, -, hresumed⟩ := resume_truncated (⟨threeLines⟩ : StoredLog) isLog_threeLines trivial
    .least ⟨2, 5, 1⟩ hbroken rfl (by decide) {} (by decide) false .empty CursorCache.wellFormed_empty
    ⟨"build", 1, none⟩ rfl [4]
  have hwhole := (hresumed (Nat.le_of_eq hstop.symm)
    (LineSequence.roomy_drain (roomy_resumedFrom roomy_uncut)).tripped).1 hstop
  change (resumedFrom cutShort uncut .empty ⟨"build", 1, none⟩ [4]).Delivers (render
    (threeLines.drop ((PageSource.drain cutShort.source).1.flatMap Page.lines).length)) at hwhole
  rw [hlines] at hwhole
  exact ⟨hread, hwhole⟩

theorem reads_cutShort : ((ofLines cutShort).reads [4, 2]).1 = [111, 110, 101, 10, 226, 128] := by
  obtain ⟨q, hread, hfollows, hoffset⟩ := (follows_ofLines gives_cutShort).read (by decide) 4
  obtain rfl : q = .before [⟨⟨10⟩, "one"⟩] [⟨⟨10⟩, markerText⟩] rfl :=
    Place.eq_of_offset_eq (hoffset.trans (by decide))
  obtain ⟨-, hnext, -⟩ := hfollows.read (by decide) 2
  rw [reads_cons hread, reads_cons hnext]
  rfl

/-- A log whose only line carries the least id. -/
def leastLine : List LogLine := [⟨.least, "one"⟩]

/-- The lines of that log within a bound of none. -/
def cutAtOnce : LineSequence (PagedSource StoredLog) :=
  { source := .start ⟨leastLine⟩ .least ⟨2, 5, 0⟩, marker := true }

theorem isLog_leastLine : IsLog leastLine := ⟨List.pairwise_singleton _ _, by decide⟩

theorem gives_cutAtOnce : cutAtOnce.Gives [⟨.least, markerText⟩] := by
  have hbroken : cutAtOnce.source.cursor.breaker? cutAtOnce.source.limits = some .maxLines := rfl
  have hdrain := PagedSource.drain_of_breaker rfl hbroken
  have hlines : (PageSource.drain cutAtOnce.source).1.flatMap Page.lines = [] :=
    congrArg (·.1.flatMap Page.lines) hdrain
  exact gives_of_broken (congrArg (·.2.1) hdrain) hlines .nil

/-- Stopped within the mark, the second reader loses the begin of the line behind the cut. Stopped behind
the mark of a log of which nothing came, it loses a line of the least id. -/
theorem mark_taken_for_line :
    let resumed := resumedFrom cutShort uncut .empty ⟨"build", 1, none⟩ [4, 2]
    let reopened := resumedFrom cutAtOnce { source := .start ⟨leastLine⟩ .least {} } .empty
      ⟨"build", 1, none⟩ [4]
    (((ofLines cutShort).reads [4, 2]).1 = [111, 110, 101, 10, 226, 128] ∧
      render (threeLines.drop 1) = [116, 119, 111, 10, 116, 104, 114, 101, 101, 10] ∧
      (resumed.read 100).1 = .ok [111, 10]) ∧
    (((ofLines cutAtOnce).reads [4]).1 = [226, 128, 166, 10] ∧
      render leastLine = [111, 110, 101, 10] ∧ (reopened.read 100).1 = .ok []) := by
  intro resumed reopened
  have hstored : IsLog (LogBackend.stored (⟨leastLine⟩ : StoredLog)) := isLog_leastLine
  have hleast : (PagedSource.start (⟨leastLine⟩ : StoredLog) .least {}).Roomy leastLine :=
    PagedSource.roomy_start hstored trivial .least (by decide) (by decide) (by decide)
  have hnew : CursorCache.empty.get? ⟨"build", 1, none⟩ 0 = none := rfl
  have hread : ((ofLines cutAtOnce).reads [4]).1 = [226, 128, 166, 10] :=
    reads_singleton gives_cutAtOnce (by decide) 4
  refine ⟨⟨reads_cutShort, by decide, ?_⟩, hread, by decide, ?_⟩
  · obtain ⟨hlines, hrest, hdiscard⟩ := gives_resumedFrom gives_cutShort
      (p := .inside [⟨⟨10⟩, "one"⟩] ⟨⟨10⟩, markerText⟩ [] rfl 2 (by decide)) yields_uncut rfl
      (by decide) CursorCache.wellFormed_empty hnew (by rw [reads_cutShort]; decide)
      (LineSequence.roomy_drain (roomy_resumedFrom roomy_uncut)).tripped
    have hfirst := fst_read_of_gives hlines hrest (n := 100) (by decide)
    rwa [hdiscard] at hfirst
  · have hyields :
        Yields True leastLine { source := .start (⟨leastLine⟩ : StoredLog) .least {} } leastLine :=
      Yields.start hstored (fun _ => trivial) .least (by decide) false
    obtain ⟨hlines, hrest, -⟩ := gives_resumedFrom gives_cutAtOnce
      (p := .before [⟨.least, markerText⟩] [] rfl) hyields rfl (by decide)
      CursorCache.wellFormed_empty hnew (by rw [hread]; decide)
      (LineSequence.roomy_drain (roomy_resumedFrom hleast)).tripped
    exact fst_read_of_gives hlines hrest (by decide)

end ThreeLines

end ByteStream

end RunLog
