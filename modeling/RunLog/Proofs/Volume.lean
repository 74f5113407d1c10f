import RunLog.Proofs.Calls

namespace RunLog

namespace Cursor

variable {cursor : Cursor} {limits : Limits}

theorem length_emitted_le (cursor : Cursor) (limits : Limits) (lines : List LogLine) :
    (cursor.emitted limits lines).length ≤ limits.maxLines - cursor.linesEmitted :=
  List.length_take_le _ _

/-- While the bound on lines is not reached, only an empty page adds nothing, and it is the last. -/
theorem absorb_exhausted_of_emitted_eq_nil (hm : cursor.linesEmitted < limits.maxLines)
    (hp : 1 ≤ limits.pageSize) {lines : List LogLine} (h : cursor.emitted limits lines = []) :
    (cursor.absorb limits lines).exhausted = true := by
  have hnone : (arrange lines).length = 0 := by
    rcases List.take_eq_nil_iff.mp h with hzero | hnil
    · omega
    · rw [hnil, List.length_nil]
  have hlines : lines.length = 0 := by
    rw [← (List.mergeSort_perm lines _).length_eq]
    exact hnone
  change decide (_ ∧ (cursor.emitted limits lines).length = _) = true
  rw [decide_eq_true_eq, h, hlines]
  exact ⟨hp, rfl⟩

/-- In words of 32 and 64 bits the counters come out as numbers do when a query is issued and `lines`
come: the budget of lines is not passed, and neither sum wraps around. -/
structure FitsWords (cursor : Cursor) (limits : Limits) (lines : List LogLine) : Prop where
  budget : cursor.linesEmitted ≤ limits.maxLines
  left : (UInt64.ofNat limits.maxLines - UInt64.ofNat cursor.linesEmitted).toNat =
    limits.maxLines - cursor.linesEmitted
  queries : (UInt32.ofNat cursor.queriesIssued + 1).toNat = cursor.queriesIssued + 1
  emitted : (UInt64.ofNat cursor.linesEmitted +
      UInt64.ofNat (cursor.emitted limits lines).length).toNat =
    cursor.linesEmitted + (cursor.emitted limits lines).length

theorem fitsWords_of_room (hm : limits.maxLines < UInt64.size) (hq : limits.maxQueries < UInt32.size)
    (hb : cursor.breaker? limits = none) (lines : List LogLine) :
    cursor.FitsWords limits lines := by
  obtain ⟨hlines, hqueries⟩ := breaker?_eq_none_iff.mp hb
  have hcount := cursor.length_emitted_le limits lines
  -- Each number is below a bound that is a word, and so is each sum.
  have hmax : (UInt64.ofNat limits.maxLines).toNat = limits.maxLines := UInt64.toNat_ofNat_of_lt' hm
  have hnow : (UInt64.ofNat cursor.linesEmitted).toNat = cursor.linesEmitted :=
    UInt64.toNat_ofNat_of_lt' (by omega)
  have hnew : (UInt64.ofNat (cursor.emitted limits lines).length).toNat =
      (cursor.emitted limits lines).length := UInt64.toNat_ofNat_of_lt' (by omega)
  have hissued : (UInt32.ofNat cursor.queriesIssued).toNat = cursor.queriesIssued :=
    UInt32.toNat_ofNat_of_lt' (by omega)
  refine ⟨Nat.le_of_lt hlines, ?_, ?_, ?_⟩
  · rw [UInt64.toNat_sub_of_le, hmax, hnow]
    rw [UInt64.le_iff_toNat_le, hmax, hnow]
    exact Nat.le_of_lt hlines
  · rw [UInt32.toNat_add, hissued]
    exact Nat.mod_eq_of_lt (Nat.lt_of_le_of_lt hqueries hq)
  · rw [UInt64.toNat_add, hnow, hnew]
    apply Nat.mod_eq_of_lt
    exact Nat.lt_of_le_of_lt (by omega) hm

end Cursor

namespace PagedSource

open PagedRun (given breaker?)

section Step

variable {φ : Type} [PageFetcher φ] {s t : PagedSource φ}
  {answer : Except RetrievalError PageOutcome}

theorem Fetched.linesEmitted (h : s.Fetched answer t) :
    t.cursor.linesEmitted = s.cursor.linesEmitted + (given answer).length := by
  cases h with
  | ended => rfl
  | broken => rfl
  | failed => rfl
  | loaded page fetcher asked he hb hf ha =>
    rw [PagedRun.given_of_loaded, Cursor.absorb_linesEmitted, ha]

theorem Fetched.linesEmitted_le (h : s.Fetched answer t)
    (hle : s.cursor.linesEmitted ≤ s.limits.maxLines) :
    t.cursor.linesEmitted ≤ s.limits.maxLines := by
  cases h with
  | ended => exact hle
  | broken => exact hle
  | failed => exact hle
  | loaded page fetcher asked he hb hf ha =>
    -- A page is cut at what is left of the budget.
    have hcut := asked.length_emitted_le s.limits page.lines
    have hasked : asked.linesEmitted = s.cursor.linesEmitted := by rw [ha]
    change (asked.absorb s.limits page.lines).linesEmitted ≤ s.limits.maxLines
    rw [Cursor.absorb_linesEmitted]
    omega

theorem Fetched.queriesIssued_le (h : s.Fetched answer t)
    (hle : s.cursor.queriesIssued ≤ s.limits.maxQueries) :
    t.cursor.queriesIssued ≤ s.limits.maxQueries := by
  cases h with
  | ended => exact hle
  | broken => exact hle
  | failed e fetcher he hb hf => exact Cursor.queriesIssued_lt_of_breaker?_eq_none hb
  | loaded page fetcher asked he hb hf ha =>
    change (asked.absorb s.limits page.lines).queriesIssued ≤ s.limits.maxQueries
    rw [Cursor.absorb_queriesIssued, ha]
    exact Cursor.queriesIssued_lt_of_breaker?_eq_none hb

/-- The bound that a fetch names as reached is marked, and it is named only if none was before. -/
theorem Fetched.tripped_toList (h : s.Fetched answer t)
    (hopen : s.cursor.exhausted = false → s.cursor.tripped = none) :
    t.cursor.tripped.toList = s.cursor.tripped.toList ++ (breaker? answer).toList := by
  cases h with
  | ended => exact (List.append_nil _).symm
  | broken breaker he hb =>
    rw [hopen he]
    rfl
  | failed => exact (List.append_nil _).symm
  | loaded page fetcher asked he hb hf ha =>
    change (asked.absorb s.limits page.lines).tripped.toList = _
    rw [Cursor.absorb_tripped, ha]
    split <;> exact (List.append_nil _).symm

theorem Fetched.tripped_of_open (h : s.Fetched answer t)
    (hopen : s.cursor.exhausted = false → s.cursor.tripped = none)
    (he : t.cursor.exhausted = false) : t.cursor.tripped = none := by
  cases h with
  | ended => exact hopen he
  | broken => exact nomatch he
  | failed e fetcher he' hb hf => exact hopen he'
  | loaded page fetcher asked he' hb hf ha =>
    change (asked.absorb s.limits page.lines).tripped = none
    rw [Cursor.absorb_tripped, ha]
    exact hopen he'

theorem Fetched.lines_ne_nil (h : s.Fetched answer t) (hp : 1 ≤ s.limits.pageSize) {page : Page}
    (hpage : answer = .ok (.page page)) : page.lines ≠ [] := by
  cases h with
  | ended => cases hpage
  | broken => cases hpage
  | failed => cases hpage
  | loaded came fetcher asked he hb hf ha =>
    -- An empty page would be known to be the last, and the end is given instead.
    intro hnil
    obtain ⟨hm, -⟩ := Cursor.breaker?_eq_none_iff.mp hb
    have hasked : asked.linesEmitted < s.limits.maxLines := by
      rw [ha]
      exact hm
    split at hpage
    · cases hpage
    · next hmore =>
      cases hpage
      apply hmore
      rw [Bool.and_eq_true, List.isEmpty_iff]
      exact ⟨hnil, Cursor.absorb_exhausted_of_emitted_eq_nil hasked hp hnil⟩

/-- A fetch that fails is counted, and leaves the source where it was. -/
theorem Fetched.cursor_of_error {e : RetrievalError} (h : s.Fetched (.error e) t) :
    s.cursor.exhausted = false ∧ s.cursor.breaker? s.limits = none ∧
      t.cursor = { s.cursor with queriesIssued := s.cursor.queriesIssued + 1 } := by
  cases h with
  | failed e fetcher he hb hf => exact ⟨he, hb, rfl⟩

theorem Fetched.exhausted_of_end (h : s.Fetched answer t) (hend : answer = .ok .exhausted) :
    t.cursor.exhausted = true := by
  cases h with
  | ended he => exact he
  | broken => cases hend
  | failed => cases hend
  | loaded page fetcher asked he hb hf ha =>
    split at hend
    · next hknown => exact (Bool.and_eq_true_iff.mp hknown).2
    · cases hend

theorem Fetched.exhausted_of_breaker (h : s.Fetched answer t) {breaker : Breaker}
    (hbroken : answer = .ok (.circuitBroken breaker)) : t.cursor.exhausted = true := by
  cases h with
  | ended => cases hbroken
  | broken => rfl
  | failed => cases hbroken
  | loaded page fetcher asked he hb hf ha => split at hbroken <;> cases hbroken

end Step

section Recorded

variable {φ : Type} [PageFetcher φ] {s t : PagedSource (Recorder φ)}
  {answer : Except RetrievalError PageOutcome}

/-- A page that is not full is the last one if all of it was given out. -/
theorem Fetched.exhausted_of_short (h : s.Fetched answer t) {page came : Page}
    (hpage : answer = .ok (.page page))
    (hcame : t.fetcher.exchanges = s.fetcher.exchanges ++
      [⟨s.cursor.windowStart, s.limits.pageSize, .ok came⟩])
    (hshort : came.lines.length < s.limits.pageSize)
    (huncut : page.lines.length = came.lines.length) : t.cursor.exhausted = true := by
  cases h with
  | ended => cases hpage
  | broken => cases hpage
  | failed => cases hpage
  | loaded page' fetcher asked he hb hf ha =>
    -- The page that came is the one that was noted.
    have hnoted := (Recorder.exchanges_of_fetch hf).symm.trans hcame
    obtain rfl : page' = came := by simpa using hnoted
    split at hpage
    · cases hpage
    · cases hpage
      change decide (_ ∧ _) = true
      rw [decide_eq_true_eq]
      exact ⟨hshort, huncut⟩

theorem Fetched.queriesIssued (h : s.Fetched answer t) :
    t.cursor.queriesIssued + s.fetcher.exchanges.length =
      s.cursor.queriesIssued + t.fetcher.exchanges.length := by
  cases h with
  | ended => rfl
  | broken => rfl
  | failed e fetcher he hb hf =>
    have hone := congrArg List.length (Recorder.exchanges_of_fetch hf)
    rw [List.length_append, List.length_singleton] at hone
    change s.cursor.queriesIssued + 1 + s.fetcher.exchanges.length = _ + fetcher.exchanges.length
    omega
  | loaded page fetcher asked he hb hf ha =>
    have hone := congrArg List.length (Recorder.exchanges_of_fetch hf)
    rw [List.length_append, List.length_singleton] at hone
    change (asked.absorb s.limits page.lines).queriesIssued + s.fetcher.exchanges.length =
      _ + fetcher.exchanges.length
    rw [Cursor.absorb_queriesIssued, ha]
    change s.cursor.queriesIssued + 1 + _ = _
    omega

end Recorded

end PagedSource

namespace PagedRun

variable {φ : Type} [PageFetcher φ] {limits : Limits} {run : PagedRun φ}

/-- The invariant of the counters: they count what was asked and what was given out, and the bound that
is marked as reached is the one that was named. -/
structure Counted (limits : Limits) (run : PagedRun φ) : Prop where
  limits_eq : run.source.limits = limits
  issued : run.source.cursor.queriesIssued = run.requests.length
  issued_le : run.source.cursor.queriesIssued ≤ limits.maxQueries
  emitted : run.source.cursor.linesEmitted = run.emitted.length
  emitted_le : run.source.cursor.linesEmitted ≤ limits.maxLines
  named : run.breakers = run.source.cursor.tripped.toList
  ended : run.source.cursor.exhausted = false → run.source.cursor.tripped = none
  filled : 1 ≤ limits.pageSize → ∀ page ∈ run.pages, page.lines ≠ []

omit [PageFetcher φ] in
theorem counted_start (backend : φ) (windowStart : LineId) (limits : Limits) :
    Counted limits (start backend windowStart limits) where
  limits_eq := rfl
  issued := rfl
  issued_le := Nat.zero_le _
  emitted := rfl
  emitted_le := Nat.zero_le _
  named := rfl
  ended _ := rfl
  filled _ := nofun

theorem Counted.fetchNext (h : Counted limits run) : Counted limits (run.call .fetchNext) := by
  obtain ⟨rfl, hissued, hissuedLe, hemitted, hemittedLe, hnamed, hended, hfilled⟩ := h
  have hf := run.source.fetched
  refine ⟨hf.limits_eq, ?_, hf.queriesIssued_le hissuedLe, ?_, hf.linesEmitted_le hemittedLe, ?_,
    hf.tripped_of_open hended, ?_⟩
  · have hcount : _ + run.requests.length = _ + (run.call .fetchNext).requests.length :=
      hf.queriesIssued
    change run.source.fetchNext.2.cursor.queriesIssued = _
    omega
  · change run.source.fetchNext.2.cursor.linesEmitted = _
    rw [emitted_fetchNext, List.length_append, hf.linesEmitted, hemitted]
  · change _ = run.source.fetchNext.2.cursor.tripped.toList
    rw [breakers_fetchNext, hf.tripped_toList hended, hnamed]
  · intro hp page hpage
    rw [pages_fetchNext] at hpage
    rcases List.mem_append.mp hpage with hold | hnew
    · exact hfilled hp page hold
    · apply hf.lines_ne_nil hp
      revert hnew
      unfold page?
      split
      · next page' hpage' =>
        intro hnew
        rw [hpage', List.mem_singleton.mp hnew]
      · exact nofun

theorem Counted.call (h : Counted limits run) (call : SourceCall) :
    Counted limits (run.call call) := by
  cases call with
  | fetchNext => exact h.fetchNext
  | seekPast id =>
    -- A seek moves the window and nothing else.
    have hissued : (run.call (.seekPast id)).source.cursor.queriesIssued =
        run.source.cursor.queriesIssued := run.source.cursor.passing_queriesIssued id
    have hemitted : (run.call (.seekPast id)).source.cursor.linesEmitted =
        run.source.cursor.linesEmitted := run.source.cursor.passing_linesEmitted id
    have htripped : (run.call (.seekPast id)).source.cursor.tripped =
        run.source.cursor.tripped := run.source.cursor.passing_tripped id
    have hexhausted : (run.call (.seekPast id)).source.cursor.exhausted =
        run.source.cursor.exhausted := run.source.cursor.passing_exhausted id
    refine ⟨h.limits_eq, hissued.trans h.issued, ?_, hemitted.trans h.emitted, ?_, ?_, ?_, h.filled⟩
    · rw [hissued]
      exact h.issued_le
    · rw [hemitted]
      exact h.emitted_le
    · rw [htripped]
      exact h.named
    · rw [hexhausted, htripped]
      exact h.ended
  | close =>
    exact ⟨h.limits_eq, h.issued, h.issued_le, h.emitted, h.emitted_le, h.named, nofun, h.filled⟩

/-- The calls that bring a source to its end: a fetch that gives the end or names a bound, a fetch that
brings a page neither full nor cut, and a close. -/
inductive Ends (run : PagedRun φ) : SourceCall → Prop
  | exhausted (h : run.source.fetchNext.1 = .ok .exhausted) : Ends run .fetchNext
  | broken (breaker : Breaker) (h : run.source.fetchNext.1 = .ok (.circuitBroken breaker)) :
      Ends run .fetchNext
  | short (page came : Page) (h : run.source.fetchNext.1 = .ok (.page page))
      (hcame : (run.call .fetchNext).requests = run.requests ++
        [⟨run.source.cursor.windowStart, run.source.limits.pageSize, .ok came⟩])
      (hshort : came.lines.length < run.source.limits.pageSize)
      (huncut : page.lines.length = came.lines.length) : Ends run .fetchNext
  | closed : Ends run .close

theorem exhausted_of_ends {call : SourceCall} (h : run.Ends call) :
    (run.call call).source.cursor.exhausted = true := by
  have hf := run.source.fetched
  cases h with
  | exhausted hend => exact hf.exhausted_of_end hend
  | broken breaker hbroken => exact hf.exhausted_of_breaker hbroken
  | short page came hpage hcame hshort huncut =>
    exact hf.exhausted_of_short hpage hcame hshort huncut
  | closed => rfl

/-- Behind the end nothing is asked, and every fetch gives the end. -/
theorem callAll_of_exhausted (h : run.source.cursor.exhausted = true) (calls : List SourceCall) :
    (run.callAll calls).requests = run.requests ∧
      (run.callAll calls).outcomes =
        run.outcomes ++ List.replicate (calls.count .fetchNext) (.ok .exhausted) := by
  induction calls generalizing run with
  | nil => exact ⟨rfl, (List.append_nil _).symm⟩
  | cons call calls ih =>
    cases call with
    | fetchNext =>
      have hsame : run.source.fetchNext = (.ok .exhausted, run.source) := by
        rw [PagedSource.fetchNext, if_pos h]
      have hcall : run.call .fetchNext = { run with outcomes := run.outcomes ++ [.ok .exhausted] } := by
        rw [call, hsame]
      rw [callAll_cons, hcall, List.count_cons_self, List.replicate_succ]
      obtain ⟨hrequests, houtcomes⟩ :=
        @ih { run with outcomes := run.outcomes ++ [.ok .exhausted] } h
      refine ⟨hrequests, ?_⟩
      rw [houtcomes, List.append_assoc, List.singleton_append]
    | seekPast id =>
      rw [callAll_cons, List.count_cons_of_ne (by simp)]
      exact ih ((run.source.cursor.passing_exhausted id).trans h)
    | close =>
      rw [callAll_cons, List.count_cons_of_ne (by simp)]
      exact ih rfl

/-- A fetch that fails is repeated by the next one, from the same window, if the bound on queries allows
it. -/
theorem requests_retried {e : RetrievalError} (h : run.source.fetchNext.1 = .error e)
    (hq : run.source.cursor.queriesIssued + 1 < run.source.limits.maxQueries) :
    ∃ first second, ((run.call .fetchNext).call .fetchNext).requests = run.requests ++
      [⟨run.source.cursor.windowStart, run.source.limits.pageSize, first⟩,
        ⟨run.source.cursor.windowStart, run.source.limits.pageSize, second⟩] := by
  have hf : run.source.Fetched (.error e) run.source.fetchNext.2 := h ▸ run.source.fetched
  obtain ⟨he, hb, hcursor⟩ := hf.cursor_of_error
  obtain ⟨first, hfirst⟩ := run.requests_fetchNext_of_room he hb
  have hcursor : (run.call .fetchNext).source.cursor = _ := hcursor
  have hlimits : (run.call .fetchNext).source.limits = run.source.limits := hf.limits_eq
  -- The failed query is counted, and nothing else keeps the next one back.
  have hb' : (run.call .fetchNext).source.cursor.breaker? (run.call .fetchNext).source.limits =
      none := by
    rw [hcursor, hlimits]
    exact Cursor.breaker?_eq_none_iff.mpr ⟨(Cursor.breaker?_eq_none_iff.mp hb).1, hq⟩
  have he' : (run.call .fetchNext).source.cursor.exhausted = false := by
    rw [hcursor]
    exact he
  obtain ⟨second, hsecond⟩ := (run.call .fetchNext).requests_fetchNext_of_room he' hb'
  refine ⟨first, second, ?_⟩
  rw [hsecond, hfirst, hcursor, hlimits, List.append_assoc]
  rfl

/-- The volume of a retrieval is bounded and its end is final, whatever the backend answers and in
whatever order the source is called: the cursor counts requests and lines within the bounds, so that
its arithmetic is exact in words; a failed fetch only costs its query; behind the end nothing is
asked; a bound is named once, and marked from then on; and no page is empty. -/
theorem volume_bounded (backend : φ) (windowStart : LineId) (limits : Limits)
    (calls : List SourceCall) :
    let run := (start backend windowStart limits).callAll calls
    let cursor := run.source.cursor
    (cursor.queriesIssued = run.requests.length ∧ cursor.queriesIssued ≤ limits.maxQueries) ∧
    (cursor.linesEmitted = run.emitted.length ∧ cursor.linesEmitted ≤ limits.maxLines) ∧
    (limits.maxLines < UInt64.size → limits.maxQueries < UInt32.size →
      cursor.breaker? limits = none → ∀ lines, cursor.FitsWords limits lines) ∧
    (∀ e, run.source.fetchNext.1 = .error e →
      (run.call .fetchNext).source.cursor =
        { cursor with queriesIssued := cursor.queriesIssued + 1 } ∧
      (cursor.queriesIssued + 1 < limits.maxQueries →
        ∃ first second, ((run.call .fetchNext).call .fetchNext).requests = run.requests ++
          [⟨cursor.windowStart, limits.pageSize, first⟩,
            ⟨cursor.windowStart, limits.pageSize, second⟩])) ∧
    (∀ last later, run.Ends last →
      ((run.call last).callAll later).requests = (run.call last).requests ∧
      ((run.call last).callAll later).outcomes = (run.call last).outcomes ++
        List.replicate (later.count .fetchNext) (.ok .exhausted)) ∧
    run.breakers = cursor.tripped.toList ∧
    (1 ≤ limits.pageSize → ∀ page ∈ run.pages, page.lines ≠ []) := by
  intro run cursor
  have hcounted : Counted limits run :=
    callAll_induction (counted_start backend windowStart limits) (fun _ call h => h.call call) calls
  refine ⟨⟨hcounted.issued, hcounted.issued_le⟩, ⟨hcounted.emitted, hcounted.emitted_le⟩, ?_, ?_, ?_,
    hcounted.named, hcounted.filled⟩
  · intro hm hq hb lines
    exact Cursor.fitsWords_of_room hm hq hb lines
  · intro e he
    have hf : run.source.Fetched (.error e) run.source.fetchNext.2 := he ▸ run.source.fetched
    refine ⟨hf.cursor_of_error.2.2, ?_⟩
    have hretried := requests_retried he
    rw [hcounted.limits_eq] at hretried
    exact hretried
  · intro last later hends
    exact callAll_of_exhausted (exhausted_of_ends hends) later

end PagedRun

end RunLog
