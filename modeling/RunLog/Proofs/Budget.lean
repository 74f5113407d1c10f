import RunLog.Proofs.Rendering
import RunLog.Proofs.Runs

/-! What the bounds on queries and on lines make of a retrieval. `pagingEnd` is the arithmetic of how
paging ends, by recursion over pages. Main statement: over a steady backend a source emits as much of
what lies ahead as both bounds allow, and ends as `pagingEnd` says. -/

namespace RunLog

/-- How paging ends where `p` of `total` lines are asked for at a time and so many lines and queries
are allowed: the last outcome, and the number of queries issued. -/
def pagingEnd (p total lines queries : Nat) : PageOutcome × Nat :=
  if total / p < queries ∧ (total < lines ∨ total = lines ∧ ¬ p ∣ total) then
    (.exhausted, total / p + 1)
  else if lines ≤ min total (p * queries) then (.circuitBroken .maxLines, (lines + p - 1) / p)
  else (.circuitBroken .maxQueries, queries)

/-- How many lines paging emits within the bounds. -/
def pagingReach (p total lines queries : Nat) : Nat := min total (min lines (p * queries))

section Arithmetic

variable {p total lines queries : Nat}

theorem pagingEnd_exhausted_iff : (pagingEnd p total lines queries).1 = .exhausted ↔
    total / p < queries ∧ (total < lines ∨ total = lines ∧ ¬ p ∣ total) := by
  unfold pagingEnd
  split
  · next hend => exact iff_of_true rfl hend
  · next hend =>
    -- Either bound is named otherwise.
    refine iff_of_false ?_ hend
    split <;> exact PageOutcome.noConfusion

/-- Fewer lines are paged through within the same bounds. -/
theorem pagingEnd_exhausted_of_le {less : Nat} (hle : less ≤ total)
    (h : (pagingEnd p total lines queries).1 = .exhausted) :
    (pagingEnd p less lines queries).1 = .exhausted := by
  obtain ⟨hqueries, hlines⟩ := pagingEnd_exhausted_iff.mp h
  refine pagingEnd_exhausted_iff.mpr ⟨Nat.lt_of_le_of_lt (Nat.div_le_div_right hle) hqueries, ?_⟩
  rcases Nat.lt_or_eq_of_le hle with hlt | rfl
  · exact .inl (by omega)
  · exact hlines

theorem pagingEnd_cases (p total lines queries : Nat) :
    (pagingEnd p total lines queries).1 = .exhausted ∨
      ∃ breaker, (pagingEnd p total lines queries).1 = .circuitBroken breaker := by
  unfold pagingEnd
  split
  · exact .inl rfl
  · split
    · exact .inr ⟨_, rfl⟩
    · exact .inr ⟨_, rfl⟩

/-- Paging that no bound ends emits all lines. -/
theorem pagingReach_of_exhausted (hp : 0 < p)
    (h : (pagingEnd p total lines queries).1 = .exhausted) :
    pagingReach p total lines queries = total := by
  obtain ⟨hqueries, hlines⟩ := pagingEnd_exhausted_iff.mp h
  have hroom : total < p * queries := by
    rw [Nat.mul_comm]
    exact (Nat.div_lt_iff_lt_mul hp).mp hqueries
  rw [pagingReach]
  omega

theorem pagingEnd_no_lines (hp : 0 < p) :
    pagingEnd p total 0 queries = (.circuitBroken .maxLines, 0) := by
  have hend : ¬ (total / p < queries ∧ (total < 0 ∨ total = 0 ∧ ¬ p ∣ total)) := by
    rintro ⟨-, h | ⟨rfl, h⟩⟩
    · exact absurd h (Nat.not_lt_zero total)
    · exact h (Nat.dvd_zero p)
  rw [pagingEnd, if_neg hend, if_pos (Nat.zero_le _), Nat.zero_add,
    Nat.div_eq_of_lt (by omega)]

theorem pagingEnd_no_queries (hl : 0 < lines) :
    pagingEnd p total lines 0 = (.circuitBroken .maxQueries, 0) := by
  rw [pagingEnd, if_neg fun h => Nat.not_lt_zero _ h.1, if_neg (by simp; omega)]

theorem pagingEnd_short (hl : 0 < lines) (hq : 0 < queries) (hp : total < p)
    (ht : total ≤ lines) : pagingEnd p total lines queries = (.exhausted, 1) := by
  have hdiv : total / p = 0 := Nat.div_eq_of_lt hp
  have hend : total / p < queries ∧ (total < lines ∨ total = lines ∧ ¬ p ∣ total) := by
    refine ⟨by omega, ?_⟩
    rcases Nat.lt_or_eq_of_le ht with h | h
    · exact .inl h
    · refine .inr ⟨h, fun hd => ?_⟩
      have := Nat.le_of_dvd (by omega) hd
      omega
  rw [pagingEnd, if_pos hend, hdiv]

theorem pagingEnd_full (hp : 0 < p) (hq : 0 < queries) (ht : p ≤ total) (hl : p ≤ lines) :
    pagingEnd p total lines queries =
      ((pagingEnd p (total - p) (lines - p) (queries - 1)).1,
        (pagingEnd p (total - p) (lines - p) (queries - 1)).2 + 1) := by
  -- Write all quantities as what is left behind the page, and a page more.
  obtain ⟨total, rfl⟩ := Nat.exists_eq_add_of_le ht
  obtain ⟨lines, rfl⟩ := Nat.exists_eq_add_of_le hl
  obtain ⟨queries, rfl⟩ := Nat.exists_eq_add_of_le' hq
  have hdiv : (p + total) / p = total / p + 1 := Nat.add_div_left total hp
  have hdvd : p ∣ p + total ↔ p ∣ total := Nat.dvd_add_right (Nat.dvd_refl p)
  have hmul : p * (queries + 1) = p + p * queries := by rw [Nat.mul_succ, Nat.add_comm]
  have hceil : (p + lines + p - 1) / p = (lines + p - 1) / p + 1 := by
    rw [show p + lines + p - 1 = p + (lines + p - 1) by omega, Nat.add_div_left _ hp]
  simp only [pagingEnd, Nat.add_sub_cancel_left, Nat.add_sub_cancel, hdiv, hdvd, hmul, hceil,
    Nat.add_lt_add_iff_right, Nat.add_lt_add_iff_left, Nat.add_left_cancel_iff,
    Nat.add_min_add_left, Nat.add_le_add_iff_left]
  split
  · rfl
  · split <;> rfl

theorem pagingEnd_cut (hq : 0 < queries) (hl : 0 < lines) (hp : lines < p) (ht : lines ≤ total)
    (hs : p ≤ total ∨ lines < total) :
    pagingEnd p total lines queries = (.circuitBroken .maxLines, 1) := by
  have hend : ¬ (total / p < queries ∧ (total < lines ∨ total = lines ∧ ¬ p ∣ total)) := by
    omega
  have hmul : p * 1 ≤ p * queries := Nat.mul_le_mul_left p hq
  have hceil : (lines + p - 1) / p = 1 := by
    rw [show lines + p - 1 = p + (lines - 1) by omega, Nat.add_div_left _ (by omega),
      Nat.div_eq_of_lt (by omega)]
  rw [pagingEnd, if_neg hend, if_pos (by omega), hceil]

/-- Behind a page that is full or cut the same question is asked of the rest, with one query less. -/
theorem pagingEnd_step (hp : 0 < p) (hl : 0 < lines) (hq : 0 < queries)
    (hs : ¬ (total < p ∧ total ≤ lines)) :
    pagingEnd p total lines queries =
      ((pagingEnd p (total - min p lines) (lines - min p lines) (queries - 1)).1,
        (pagingEnd p (total - min p lines) (lines - min p lines) (queries - 1)).2 + 1) := by
  by_cases hfull : p ≤ lines
  · rw [Nat.min_eq_left hfull]
    exact pagingEnd_full hp hq (by omega) hfull
  · rw [Nat.min_eq_right (by omega), Nat.sub_self, pagingEnd_no_lines hp,
      pagingEnd_cut hq hl (by omega) (by omega) (by omega)]

theorem pagingReach_step (hq : 0 < queries) (hs : ¬ (total < p ∧ total ≤ lines)) :
    pagingReach p total lines queries = min p lines +
      pagingReach p (total - min p lines) (lines - min p lines) (queries - 1) := by
  obtain ⟨queries, rfl⟩ := Nat.exists_eq_add_of_le' hq
  have hmul : p * (queries + 1) = p + p * queries := by rw [Nat.mul_succ, Nat.add_comm]
  simp only [pagingReach, hmul, Nat.add_sub_cancel]
  omega

theorem pagingReach_short (hq : 0 < queries) (hp : total < p) (ht : total ≤ lines) :
    pagingReach p total lines queries = total := by
  have hmul : p * 1 ≤ p * queries := Nat.mul_le_mul_left p hq
  rw [pagingReach]
  omega

end Arithmetic

namespace PagedSource

variable {φ : Type} [PageFetcher φ]

theorem drain_of_exhausted {s : PagedSource φ} (he : s.cursor.exhausted = true) :
    PageSource.drain s = ([], .ok .exhausted, s) := by
  have hf : s.fetchNext = (.ok .exhausted, s) := by rw [fetchNext, if_pos he]
  have hne : ∀ page, (PageSource.fetchNext s).1 ≠ .ok (.page page) := by
    intro page h
    rw [fetchNext_paged, hf] at h
    cases h
  exact (PageSource.drain_of_end hne).trans (congrArg (Prod.mk []) hf)

theorem drain_of_breaker {s : PagedSource φ} {breaker : Breaker} (he : s.cursor.exhausted = false)
    (hb : s.cursor.breaker? s.limits = some breaker) :
    PageSource.drain s = ([], .ok (.circuitBroken breaker),
      { s with cursor := { s.cursor with exhausted := true, tripped := some breaker } }) := by
  have hf : s.fetchNext = (.ok (.circuitBroken breaker),
      { s with cursor := { s.cursor with exhausted := true, tripped := some breaker } }) := by
    rw [fetchNext, if_neg (by simp [he]), hb]
  have hne : ∀ page, (PageSource.fetchNext s).1 ≠ .ok (.page page) := by
    intro page h
    rw [fetchNext_paged, hf] at h
    cases h
  exact (PageSource.drain_of_end hne).trans (congrArg (Prod.mk []) hf)

theorem Fetched.count {s t : PagedSource (ObservedFetcher φ)}
    {answer : Except RetrievalError PageOutcome} (h : s.Fetched answer t) :
    t.fetcher.count + s.cursor.queriesIssued = s.fetcher.count + t.cursor.queriesIssued := by
  have hcount := s.fetcher.fetch_count s.cursor.windowStart s.limits.pageSize
  cases h with
  | ended => rfl
  | broken => rfl
  | failed e fetcher he hb hf =>
    rw [show s.fetcher.fetch s.cursor.windowStart s.limits.pageSize = _ from hf] at hcount
    have hcount : fetcher.count = s.fetcher.count + 1 := hcount
    change fetcher.count + s.cursor.queriesIssued = _ + (s.cursor.queriesIssued + 1)
    omega
  | loaded page fetcher asked he hb hf ha =>
    rw [show s.fetcher.fetch s.cursor.windowStart s.limits.pageSize = _ from hf] at hcount
    have hcount : fetcher.count = s.fetcher.count + 1 := hcount
    change fetcher.count + s.cursor.queriesIssued =
      _ + (asked.absorb s.limits page.lines).queriesIssued
    rw [Cursor.absorb_queriesIssued, ha]
    change fetcher.count + s.cursor.queriesIssued = _ + (s.cursor.queriesIssued + 1)
    omega

theorem count_drain (s : PagedSource (ObservedFetcher φ)) :
    (PageSource.drain s).2.2.fetcher.count + s.cursor.queriesIssued =
      s.fetcher.count + (PageSource.drain s).2.2.cursor.queriesIssued := by
  have hstep := s.fetched.count
  by_cases hf : ∃ page, (PageSource.fetchNext s).1 = .ok (.page page)
  · obtain ⟨page, hf⟩ := hf
    have hlt := PageSource.fetchesLeft_lt s page hf
    have ih := count_drain s.fetchNext.2
    rw [PageSource.drain_of_page hf]
    change (PageSource.drain s.fetchNext.2).2.2.fetcher.count + _ =
      _ + (PageSource.drain s.fetchNext.2).2.2.cursor.queriesIssued
    omega
  · rw [PageSource.drain_of_end fun page hp => hf ⟨page, hp⟩]
    exact hstep
termination_by PageSource.fetchesLeft s

/-- A source from which `rest` is owed is drained as the arithmetic of paging says, where `b` lines and
`q` queries are still allowed. -/
structure Drained (s : PagedSource φ) (rest : List LogLine) (b q : Nat) : Prop where
  emitted : (PageSource.drain s).1.flatMap Page.lines =
    rest.take (pagingReach s.limits.pageSize rest.length b q)
  outcome : (PageSource.drain s).2.1 = .ok (pagingEnd s.limits.pageSize rest.length b q).1
  issued : (PageSource.drain s).2.2.cursor.queriesIssued =
    s.cursor.queriesIssued + (pagingEnd s.limits.pageSize rest.length b q).2

/-- Where no bound is named at the end, all that is owed was emitted. -/
theorem Drained.of_quiet {s : PagedSource φ} {rest : List LogLine} {b q : Nat}
    (h : Drained s rest b q) (hp : 0 < s.limits.pageSize)
    (hquiet : ∀ breaker, (PageSource.drain s).2.1 ≠ .ok (.circuitBroken breaker)) :
    (PageSource.drain s).2.1 = .ok .exhausted ∧
      (PageSource.drain s).1.flatMap Page.lines = rest := by
  obtain ⟨hemitted, hout, -⟩ := h
  have hend : (pagingEnd s.limits.pageSize rest.length b q).1 = .exhausted := by
    rcases pagingEnd_cases s.limits.pageSize rest.length b q with hend | ⟨breaker, hbroken⟩
    · exact hend
    · rw [hbroken] at hout
      exact absurd hout (hquiet breaker)
  refine ⟨by rw [hout, hend], ?_⟩
  rw [hemitted, pagingReach_of_exhausted hp hend, List.take_length]

theorem drained_of_no_lines {s : PagedSource φ} (hp : 0 < s.limits.pageSize)
    (he : s.cursor.exhausted = false) (hb : s.limits.maxLines ≤ s.cursor.linesEmitted)
    (rest : List LogLine) (q : Nat) : Drained s rest 0 q := by
  have hbr : s.cursor.breaker? s.limits = some .maxLines := if_pos hb
  have hdrain := drain_of_breaker he hbr
  have hend : pagingEnd s.limits.pageSize rest.length 0 q = _ := pagingEnd_no_lines hp
  refine ⟨?_, ?_, ?_⟩
  · rw [hdrain, pagingReach, Nat.zero_min, Nat.min_zero]
    rfl
  · rw [hdrain, hend]
  · rw [hdrain, hend]
    rfl

theorem drained_of_no_queries {s : PagedSource φ} {b : Nat} (hb : 0 < b)
    (he : s.cursor.exhausted = false) (hm : s.cursor.linesEmitted < s.limits.maxLines)
    (hq : s.limits.maxQueries ≤ s.cursor.queriesIssued) (rest : List LogLine) :
    Drained s rest b 0 := by
  have hbr : s.cursor.breaker? s.limits = some .maxQueries := by
    rw [Cursor.breaker?, if_neg (Nat.not_le_of_lt hm), if_pos hq]
  have hdrain := drain_of_breaker he hbr
  have hend : pagingEnd s.limits.pageSize rest.length b 0 = _ := pagingEnd_no_queries hb
  refine ⟨?_, ?_, ?_⟩
  · rw [hdrain, pagingReach, Nat.mul_zero, Nat.min_zero, Nat.min_zero]
    rfl
  · rw [hdrain, hend]
  · rw [hdrain, hend]
    rfl

/-- A query finds the end where nothing lies ahead. -/
theorem drained_of_nothing {s : PagedSource φ} (hp : 0 < s.limits.pageSize) {b q : Nat}
    (hb : 0 < b) (hf : s.fetchNext.1 = .ok .exhausted)
    (hissued : s.fetchNext.2.cursor.queriesIssued = s.cursor.queriesIssued + 1) :
    Drained s [] b (q + 1) := by
  have hdrain := PageSource.drain_of_end (s := s) fun page hp => nomatch hf.symm.trans hp
  have hend : pagingEnd s.limits.pageSize 0 b (q + 1) = _ :=
    pagingEnd_short hb (Nat.succ_pos q) hp (Nat.zero_le b)
  refine ⟨?_, ?_, ?_⟩
  · rw [hdrain, List.take_nil]
    rfl
  · rw [hdrain, List.length_nil, hend]
    exact hf
  · rw [hdrain, List.length_nil, hend]
    exact hissued

/-- A page that is neither full nor cut is the last, and the source knows. -/
theorem drained_of_last {s : PagedSource φ} {rest : List LogLine} {page : Page} {b q : Nat}
    (hb : 0 < b) (hshort : rest.length < s.limits.pageSize ∧ rest.length ≤ b)
    (hf : s.fetchNext.1 = .ok (.page page)) (hpage : page.lines = rest)
    (hknown : s.fetchNext.2.cursor.exhausted = true)
    (hissued : s.fetchNext.2.cursor.queriesIssued = s.cursor.queriesIssued + 1) :
    Drained s rest b (q + 1) := by
  have hdrain : PageSource.drain s = ([page], .ok .exhausted, s.fetchNext.2) := by
    rw [PageSource.drain_of_page hf]
    change (page :: (PageSource.drain s.fetchNext.2).1, (PageSource.drain s.fetchNext.2).2) = _
    rw [drain_of_exhausted hknown]
  have hend : pagingEnd s.limits.pageSize rest.length b (q + 1) = _ :=
    pagingEnd_short hb (Nat.succ_pos q) hshort.1 hshort.2
  have hreach : pagingReach s.limits.pageSize rest.length b (q + 1) = _ :=
    pagingReach_short (Nat.succ_pos q) hshort.1 hshort.2
  refine ⟨?_, ?_, ?_⟩
  · rw [hdrain, hreach, List.take_length, ← hpage]
    exact List.append_nil _
  · rw [hdrain, hend]
  · rw [hdrain, hend]
    exact hissued

/-- Behind a page that is full or cut the rest is drained with one query less. -/
theorem Drained.page {s : PagedSource φ} {rest : List LogLine} {page : Page} {b q k : Nat}
    (hp : 0 < s.limits.pageSize) (hb : 0 < b) (hk : k = min s.limits.pageSize b)
    (hmore : ¬ (rest.length < s.limits.pageSize ∧ rest.length ≤ b))
    (hf : s.fetchNext.1 = .ok (.page page)) (hpage : page.lines = rest.take k)
    (hissued : s.fetchNext.2.cursor.queriesIssued = s.cursor.queriesIssued + 1)
    (h : Drained s.fetchNext.2 (rest.drop k) (b - k) q) : Drained s rest b (q + 1) := by
  have hdrain : PageSource.drain s =
      (page :: (PageSource.drain s.fetchNext.2).1, (PageSource.drain s.fetchNext.2).2) :=
    PageSource.drain_of_page hf
  have hend : pagingEnd s.limits.pageSize rest.length b (q + 1) =
      ((pagingEnd s.limits.pageSize (rest.length - k) (b - k) q).1,
        (pagingEnd s.limits.pageSize (rest.length - k) (b - k) q).2 + 1) := by
    rw [pagingEnd_step hp hb (Nat.succ_pos q) hmore, ← hk, Nat.succ_sub_one]
  have hreach : pagingReach s.limits.pageSize rest.length b (q + 1) =
      k + pagingReach s.limits.pageSize (rest.length - k) (b - k) q := by
    rw [pagingReach_step (Nat.succ_pos q) hmore, ← hk, Nat.succ_sub_one]
  obtain ⟨hemitted, hout, hqueries⟩ := h
  rw [s.fetched.limits_eq, List.length_drop] at hemitted hout hqueries
  refine ⟨?_, ?_, ?_⟩
  · rw [hdrain, List.flatMap_cons, hpage, hemitted, hreach, List.take_add]
  · rw [hdrain, hend]
    exact hout
  · rw [hdrain, hend]
    calc (PageSource.drain s.fetchNext.2).2.2.cursor.queriesIssued
      _ = s.cursor.queriesIssued + 1 + _ := by rw [hqueries, hissued]
      _ = s.cursor.queriesIssued + (_ + 1) := Nat.add_right_comm ..

variable [LogBackend φ]

open LogBackend

/-- Lines that one page holds with room to spare come with one query, and the end is known. -/
theorem drained_of_short {s : PagedSource φ} {b q : Nat} (hstored : Ordered (stored s.fetcher))
    (hsteady : Steady s.fetcher) (hp : 0 < s.limits.pageSize) (he : s.cursor.exhausted = false)
    (hb : s.cursor.linesEmitted + b = s.limits.maxLines)
    (hq : s.cursor.queriesIssued + (q + 1) = s.limits.maxQueries) (hpos : 0 < b)
    (hshort : s.ahead.length < s.limits.pageSize ∧ s.ahead.length ≤ b) :
    Drained s s.ahead b (q + 1) := by
  have hbr : s.cursor.breaker? s.limits = none :=
    Cursor.breaker?_eq_none_iff.mpr ⟨by omega, by omega⟩
  obtain ⟨hissued, ⟨e, -, herr⟩ | ⟨hf, hnil, -⟩ | ⟨page, k, hk, hf, htake, -, -, hend, -⟩⟩ :=
    fetchNext_of_ordered hstored hp he hbr
  · exact absurd hsteady herr
  · rw [hnil]
    exact drained_of_nothing hp hpos hf hissued
  · have hknown := hend.mpr ⟨hshort.1, by omega⟩
    rw [List.take_of_length_le (by omega)] at htake
    exact drained_of_last hpos hshort hf htake hknown hissued

/-- Far from both bounds, lines that one page holds with room to spare all come. -/
theorem drain_of_short {s : PagedSource φ} (hstored : Ordered (stored s.fetcher))
    (hsteady : Steady s.fetcher) (he : s.cursor.exhausted = false)
    (hlines : s.cursor.linesEmitted + s.ahead.length < s.limits.maxLines)
    (hqueries : s.cursor.queriesIssued < s.limits.maxQueries)
    (hshort : s.ahead.length < s.limits.pageSize) :
    (PageSource.drain s).2.1 = .ok .exhausted ∧
      (PageSource.drain s).1.flatMap Page.lines = s.ahead := by
  have hp : 0 < s.limits.pageSize := Nat.zero_lt_of_lt hshort
  have hroom : s.cursor.linesEmitted ≤ s.limits.maxLines := by omega
  obtain ⟨b, hb⟩ := Nat.exists_eq_add_of_le hroom
  obtain ⟨q, hq⟩ := Nat.exists_eq_add_of_lt hqueries
  have hdrained : Drained s s.ahead b (q + 1) :=
    drained_of_short hstored hsteady hp he hb.symm hq.symm (by omega) ⟨hshort, by omega⟩
  have hend : (pagingEnd s.limits.pageSize s.ahead.length b (q + 1)).1 = .exhausted := by
    rw [pagingEnd_short (by omega) (Nat.succ_pos q) hshort (by omega)]
  have hout := hdrained.outcome
  rw [hend] at hout
  apply hdrained.of_quiet hp
  intro breaker
  rw [hout]
  exact nofun

/-- What paging keeps of the lines ahead is emitted as far as the bounds reach, and the end is that of
the arithmetic of paging, over a steady backend. -/
theorem drained_of_ordered {s : PagedSource φ} {b q : Nat} (hlog : IsTiedLog (stored s.fetcher))
    (hsteady : Steady s.fetcher) (hp : 0 < s.limits.pageSize) (he : s.cursor.exhausted = false)
    (hb : s.cursor.linesEmitted + b = s.limits.maxLines)
    (hq : s.cursor.queriesIssued + q = s.limits.maxQueries) :
    Drained s (kept s.limits.pageSize hp s.ahead) b q := by
  -- By induction on the queries that are allowed, since each page costs one.
  induction q generalizing s b with
  | zero =>
    rcases Nat.eq_zero_or_pos b with rfl | hpos
    · exact drained_of_no_lines hp he (by omega) _ 0
    · exact drained_of_no_queries hpos he (by omega) (by omega) _
  | succ q ih =>
    rcases Nat.eq_zero_or_pos b with rfl | hpos
    · exact drained_of_no_lines hp he (by omega) _ (q + 1)
    by_cases hshort : s.ahead.length < s.limits.pageSize ∧ s.ahead.length ≤ b
    · rw [kept_of_length_le (Nat.le_of_lt hshort.1)]
      exact drained_of_short hlog.ordered hsteady hp he hb hq hpos hshort
    have hbr : s.cursor.breaker? s.limits = none :=
      Cursor.breaker?_eq_none_iff.mpr ⟨by omega, by omega⟩
    obtain ⟨hissued, ⟨e, -, herr⟩ | ⟨-, hnil, -⟩ |
      ⟨page, k, hk, hf, htake, -, hcount, hend, hwindow⟩⟩ := fetchNext_of_ordered hlog.ordered hp he hbr
    · exact absurd hsteady herr
    · rw [hnil] at hshort
      exact absurd ⟨hp, Nat.zero_le b⟩ hshort
    · have hbudget : k = min s.limits.pageSize b := by omega
      have hfront : page.lines = (kept s.limits.pageSize hp s.ahead).take k := by
        rw [htake, take_kept (by omega)]
      have hkept : ¬ ((kept s.limits.pageSize hp s.ahead).length < s.limits.pageSize ∧
          (kept s.limits.pageSize hp s.ahead).length ≤ b) := by
        rintro ⟨hless, hfits⟩
        have hless := length_kept_lt_iff.mp hless
        rw [kept_of_length_le (Nat.le_of_lt hless)] at hfits
        exact hshort ⟨hless, hfits⟩
      have hopen : s.fetchNext.2.cursor.exhausted = false := by
        rw [← Bool.not_eq_true, hend]
        omega
      have hlen : page.lines.length = k := by
        rw [htake, List.length_take]
        omega
      have hlimits := s.fetched.limits_eq
      apply Drained.page hp hpos hbudget hkept hf hfront hissued
      by_cases hcut : b < s.limits.pageSize
      · -- The page was cut, and the budget is spent.
        rw [show b - k = 0 by omega]
        exact drained_of_no_lines (hlimits ▸ hp) hopen (by rw [hlimits]; omega) _ q
      · -- Behind a full page lies what is kept of the lines behind its last id.
        have hfull : k = s.limits.pageSize := by omega
        have hnext : s.fetchNext.2.ahead =
            behindPage (s.ahead.take s.limits.pageSize) (s.ahead.drop s.limits.pageSize) := by
          rw [ahead_of_open hopen, s.fetched.stored_eq, hwindow hlog.below]
        have ih := @ih s.fetchNext.2 (b - k) (s.fetched.stored_eq ▸ hlog)
          (s.fetched.steady hsteady) (hlimits ▸ hp) hopen (by rw [hlimits]; omega)
          (by rw [hlimits]; omega)
        simp only [hnext, hlimits] at ih
        rw [hfull, drop_kept (by omega)]
        rw [hfull] at ih
        exact ih

/-- What is owed over a steady backend is emitted as far as the bounds reach, and the end is that of
the arithmetic of paging. -/
theorem drained_of_owes {lines rest : List LogLine} {s : PagedSource φ} {b q : Nat}
    (h : PagesOver True lines s) (ho : s.Owes rest) (he : s.cursor.exhausted = false)
    (hb : s.cursor.linesEmitted + b = s.limits.maxLines)
    (hq : s.cursor.queriesIssued + q = s.limits.maxQueries) : Drained s rest b q := by
  have hlog : IsLog (stored s.fetcher) := h.stored_eq ▸ h.isLog
  rcases ho with rfl | ⟨-, hspent⟩
  · -- Where no two lines share an id, everything is kept.
    have hasc : Ascending s.ahead := by
      rw [ahead_of_open he]
      exact (hlog.fromId s.cursor.windowStart).ascending
    have hdrained :=
      drained_of_ordered hlog.isTiedLog (h.steady trivial) h.pageSize_pos he hb hq
    rwa [kept_eq_self_of_ascending hasc] at hdrained
  · obtain rfl : b = 0 := by omega
    exact drained_of_no_lines h.pageSize_pos he hspent rest q

end PagedSource

open PagedSource LogBackend

variable {φ : Type} [PageFetcher φ] [LogBackend φ]

/-- The exact outcome of paging over a steady backend under both bounds: which lines are emitted, how
paging ends and after how many requests, and which bytes the opened log delivers. -/
theorem paging_outcome (backend : φ) (hlog : IsLog (stored backend)) (hsteady : Steady backend)
    (start : LineId) (limits : Limits) (hpage : 1 ≤ limits.pageSize) (options : StreamOptions) :
    let source : PagedSource (ObservedFetcher φ) := .start { inner := backend } start limits
    let lines := fromId start (stored backend)
    let L := lines.length
    let P := limits.pageSize
    let Q := limits.maxQueries
    let M := limits.maxLines
    let emitted := lines.take (min L (min M (P * Q)))
    let outcome := (PageSource.drain source).2.1
    let requests := (PageSource.drain source).2.2.fetcher.count
    (PageSource.drain source).1.flatMap Page.lines = emitted ∧
    (outcome = .ok .exhausted ↔ L / P < Q ∧ (L < M ∨ L = M ∧ ¬ P ∣ L)) ∧
    (outcome = .ok .exhausted → requests = L / P + 1) ∧
    (outcome ≠ .ok .exhausted → M ≤ min L (P * Q) →
      outcome = .ok (.circuitBroken .maxLines) ∧ requests = (M + P - 1) / P) ∧
    (outcome ≠ .ok .exhausted → ¬ M ≤ min L (P * Q) →
      outcome = .ok (.circuitBroken .maxQueries) ∧ requests = Q) ∧
    ∃ log, Opening.ofSource source options = .opened log ∧
      log.stream.Delivers (render (emitted ++
        LineSequence.markOf options.marker (lastId emitted) outcome)) := by
  intro source lines L P Q M emitted outcome requests
  have hpages : PagesOver True (stored backend) source := ⟨hlog, rfl, hpage, fun _ => ⟨rfl, hsteady⟩⟩
  obtain ⟨hemitted, hout, hqueries⟩ :=
    drained_of_owes hpages (.inl rfl) rfl (Nat.zero_add M) (Nat.zero_add Q)
  have hemitted : (PageSource.drain source).1.flatMap Page.lines = emitted := hemitted
  have hout : outcome = .ok (pagingEnd P L M Q).1 := hout
  have hrequests : requests = (pagingEnd P L M Q).2 := by
    -- The backend has counted as many requests as the cursor.
    have hcount : requests + 0 = 0 + (PageSource.drain source).2.2.cursor.queriesIssued :=
      source.count_drain
    have hqueries : (PageSource.drain source).2.2.cursor.queriesIssued =
        0 + (pagingEnd P L M Q).2 := hqueries
    omega
  have hopens : ∃ log, Opening.ofSource source options = .opened log ∧
      log.stream.Delivers (render (emitted ++
        LineSequence.markOf options.marker (lastId emitted) outcome)) := by
    have hdel := Opening.delivers_of_drain options
      (show LineSequence.errorsOf (PageSource.drain source).2.1 = [] by
        rw [show (PageSource.drain source).2.1 = _ from hout]
        rfl)
    rwa [hemitted, render_append, LineSequence.render_markOf _ _ (lastId emitted),
      ← render_append] at hdel
  have hends : outcome = .ok .exhausted ↔ L / P < Q ∧ (L < M ∨ L = M ∧ ¬ P ∣ L) := by
    rw [hout, Except.ok.injEq]
    exact pagingEnd_exhausted_iff
  refine ⟨hemitted, hends, ?_, ?_, ?_, hopens⟩
  · intro hend
    rw [hrequests, pagingEnd, if_pos (hends.mp hend)]
  · intro hend hcut
    have hlines : pagingEnd P L M Q = (.circuitBroken .maxLines, (M + P - 1) / P) := by
      rw [pagingEnd, if_neg (mt hends.mpr hend), if_pos hcut]
    rw [hout, hrequests, hlines]
    exact ⟨rfl, rfl⟩
  · intro hend hcut
    have hqueries : pagingEnd P L M Q = (.circuitBroken .maxQueries, Q) := by
      rw [pagingEnd, if_neg (mt hends.mpr hend), if_neg hcut]
    rw [hout, hrequests, hqueries]
    exact ⟨rfl, rfl⟩

theorem paging_outcome_threeLines :
    let source : PagedSource (ObservedFetcher StoredLog) :=
      .start { inner := ⟨threeLines⟩ } .least ⟨2, 5, 2⟩
    (PageSource.drain source).1.flatMap Page.lines = threeLines.take 2 ∧
    (PageSource.drain source).2.1 = .ok (.circuitBroken .maxLines) ∧
    (PageSource.drain source).2.2.fetcher.count = 1 ∧
    ∃ log, Opening.ofSource source {} = .opened log ∧
      log.stream.Delivers (render [⟨⟨10⟩, "one"⟩, ⟨⟨20⟩, "two"⟩, ⟨⟨20⟩, "…"⟩]) := by
  intro source
  obtain ⟨hlines, hend, -, hcut, -, hlog⟩ :=
    paging_outcome (⟨threeLines⟩ : StoredLog) isLog_threeLines trivial .least ⟨2, 5, 2⟩ (by decide) {}
  have hne : (PageSource.drain source).2.1 ≠ .ok .exhausted := by
    intro h
    exact absurd (hend.mp h) (by decide)
  obtain ⟨hout, hcount⟩ := hcut hne (by decide)
  rw [show (PageSource.drain _).2.1 = _ from hout] at hlog
  exact ⟨hlines, hout, hcount, hlog⟩

end RunLog
