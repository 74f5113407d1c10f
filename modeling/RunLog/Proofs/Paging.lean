import RunLog.Proofs.Log
import RunLog.Source.Observed
import RunLog.Source.Paged

/-! Paging over a backend that answers from a stored log. `Fetched` says once what a fetch can do, and
`PagedSource.ahead` is what a source has still to emit. Main statement: until a bound is reached, a
fetch takes its page off the front of what lies ahead. -/

namespace RunLog

/-- A backend over a stored log: what it answers are the first lines of the log from an id on. Some
queries may fail. -/
class LogBackend (φ : Type) [PageFetcher φ] where
  stored : φ → List LogLine
  /-- No query fails, now or later. -/
  Steady : φ → Prop
  stored_fetch : ∀ b start n, stored (PageFetcher.fetch b start n).2 = stored b
  lines_fetch : ∀ b start n page, (PageFetcher.fetch b start n).1 = .ok page →
    page.lines = (fromId start (stored b)).take n
  steady_fetch : ∀ b start n, Steady b → Steady (PageFetcher.fetch b start n).2
  fetch_ne_error : ∀ b start n e, Steady b → (PageFetcher.fetch b start n).1 ≠ .error e

open LogBackend

instance : LogBackend StoredLog where
  stored log := log.lines
  Steady _ := True
  stored_fetch _ _ _ := rfl
  lines_fetch log start n page h := by
    cases h
    rfl
  steady_fetch _ _ _ _ := trivial
  fetch_ne_error _ _ _ _ _ := nofun

namespace ObservedFetcher

variable {φ : Type} [PageFetcher φ]

/-- A request either fails by the schedule or is passed on; it is counted in both cases. -/
theorem fetch_cases (b : ObservedFetcher φ) (start : LineId) (n : Nat) :
    (∃ e, b.failures.lookup (b.count + 1) = some e ∧ (b.fetch start n).1 = .error e ∧
      (b.fetch start n).2.inner = b.inner) ∨
    (b.failures.lookup (b.count + 1) = none ∧
      (b.fetch start n).1 = (PageFetcher.fetch b.inner start n).1 ∧
      (b.fetch start n).2.inner = (PageFetcher.fetch b.inner start n).2) := by
  cases h : b.failures.lookup (b.count + 1) with
  | some e =>
    left
    exact ⟨e, rfl, by simp [fetch, h], by simp [fetch, h]⟩
  | none =>
    right
    exact ⟨rfl, by simp [fetch, h], by simp [fetch, h]⟩

@[simp] theorem fetch_count (b : ObservedFetcher φ) (start : LineId) (n : Nat) :
    (b.fetch start n).2.count = b.count + 1 := by
  cases h : b.failures.lookup (b.count + 1) <;> simp [fetch, h]

@[simp] theorem fetch_failures (b : ObservedFetcher φ) (start : LineId) (n : Nat) :
    (b.fetch start n).2.failures = b.failures := by
  cases h : b.failures.lookup (b.count + 1) <;> simp [fetch, h]

/-- Observing a backend, and failing some of its queries, leaves its log as it is. -/
instance [LogBackend φ] : LogBackend (ObservedFetcher φ) where
  stored b := stored b.inner
  Steady b := b.failures = [] ∧ Steady b.inner
  stored_fetch b start n := by
    rcases fetch_cases b start n with ⟨e, -, -, hi⟩ | ⟨-, -, hi⟩
    · exact congrArg stored hi
    · exact (congrArg stored hi).trans (stored_fetch b.inner start n)
  lines_fetch b start n page h := by
    rcases fetch_cases b start n with ⟨e, -, he, -⟩ | ⟨-, hf, -⟩
    · exact nomatch he.symm.trans h
    · exact lines_fetch b.inner start n page (hf.symm.trans h)
  steady_fetch b start n := by
    rintro ⟨hn, hs⟩
    refine ⟨(fetch_failures b start n).trans hn, ?_⟩
    rcases fetch_cases b start n with ⟨e, he, -, -⟩ | ⟨-, -, hi⟩
    · simp [hn] at he
    · change Steady (b.fetch start n).2.inner
      rw [hi]
      exact steady_fetch b.inner start n hs
  fetch_ne_error b start n e := by
    rintro ⟨hn, hs⟩ h
    rcases fetch_cases b start n with ⟨e', he, -, -⟩ | ⟨-, hf, -⟩
    · simp [hn] at he
    · exact fetch_ne_error b.inner start n e hs (hf.symm.trans h)

end ObservedFetcher

namespace Cursor

theorem breaker?_eq_none_iff {cursor : Cursor} {limits : Limits} :
    cursor.breaker? limits = none ↔
      cursor.linesEmitted < limits.maxLines ∧ cursor.queriesIssued < limits.maxQueries := by
  unfold breaker?
  split
  · simp
    omega
  · split <;> simp <;> omega

@[simp] theorem passing_linesEmitted (cursor : Cursor) (id : LineId) :
    (cursor.passing id).linesEmitted = cursor.linesEmitted := by
  unfold passing
  split <;> rfl

@[simp] theorem passing_exhausted (cursor : Cursor) (id : LineId) :
    (cursor.passing id).exhausted = cursor.exhausted := by
  unfold passing
  split <;> rfl

@[simp] theorem passing_tripped (cursor : Cursor) (id : LineId) :
    (cursor.passing id).tripped = cursor.tripped := by
  unfold passing
  split <;> rfl

@[simp] theorem absorb_tripped (cursor : Cursor) (limits : Limits) (lines : List LogLine) :
    (cursor.absorb limits lines).tripped = cursor.tripped := by
  unfold absorb behind
  split
  · exact passing_tripped _ _
  · rfl

/-- A cursor that has passed an id asks for what it asked for before, less the lines up to the id. -/
theorem passing_windowStart_le_iff (cursor : Cursor) (id : LineId) {line : LogLine}
    (hl : line.id < .greatest) :
    (cursor.passing id).windowStart ≤ line.id ↔ cursor.windowStart ≤ line.id ∧ id < line.id := by
  -- The successor of an id bounds exactly the ids above it, since the line is not the highest.
  have hnext := LineId.next_le_iff (a := id) hl
  unfold passing
  split
  · next hlt =>
    rw [hnext]
    refine ⟨fun h => ⟨?_, h⟩, And.right⟩
    exact LineId.le_trans (LineId.le_of_lt hlt) (hnext.mpr h)
  · next hge =>
    refine ⟨fun h => ⟨h, hnext.mp ?_⟩, And.left⟩
    exact LineId.le_trans (LineId.not_lt.mp hge) h

theorem fromId_passing (cursor : Cursor) (id : LineId) {lines : List LogLine}
    (h : ∀ line ∈ lines, line.id < .greatest) :
    fromId (cursor.passing id).windowStart lines = beyond id (fromId cursor.windowStart lines) := by
  unfold fromId beyond
  rw [List.filter_filter]
  apply List.filter_congr
  intro line hl
  have hiff := cursor.passing_windowStart_le_iff id (h line hl)
  rw [← Bool.decide_and]
  exact decide_eq_decide.mpr (hiff.trans and_comm)

theorem arrange_perm (lines : List LogLine) : (arrange lines).Perm lines :=
  List.mergeSort_perm lines _

/-- The order by which lines are arranged is one: it is transitive, and any two lines are in it. -/
theorem byId_trans (a b c : LogLine) (hab : decide (a.id ≤ b.id) = true)
    (hbc : decide (b.id ≤ c.id) = true) : decide (a.id ≤ c.id) = true := by
  rw [decide_eq_true_eq] at hab hbc ⊢
  exact LineId.le_trans hab hbc

theorem byId_total (a b : LogLine) : (decide (a.id ≤ b.id) || decide (b.id ≤ a.id)) = true := by
  rw [Bool.or_eq_true, decide_eq_true_eq, decide_eq_true_eq]
  exact LineId.le_total a.id b.id

theorem ordered_arrange (lines : List LogLine) : Ordered (arrange lines) := by
  have hsorted : (arrange lines).Pairwise fun a b => decide (a.id ≤ b.id) = true :=
    List.pairwise_mergeSort byId_trans byId_total lines
  exact hsorted.imp fun h => of_decide_eq_true h

theorem arrange_of_ordered {lines : List LogLine} (h : Ordered lines) : arrange lines = lines :=
  List.mergeSort_of_pairwise (h.imp fun hab => decide_eq_true hab)

/-- Behind a page of what a log holds from the window on lies the rest of it, less the lines that share
the last id of the page. -/
theorem fromId_absorb (cursor : Cursor) (limits : Limits) {lines : List LogLine}
    (h : IsTiedLog lines) (n : Nat) :
    fromId (cursor.absorb limits ((fromId cursor.windowStart lines).take n)).windowStart lines =
      behindPage ((fromId cursor.windowStart lines).take n)
        ((fromId cursor.windowStart lines).drop n) := by
  -- The page is in order as it comes, so its last line carries its highest id.
  have hord : Ordered (fromId cursor.windowStart lines) := h.ordered.sublist List.filter_sublist
  generalize htodo : fromId cursor.windowStart lines = todo at hord
  have hpage := hord.sublist (List.take_sublist n todo)
  have hsplit := List.take_append_drop n todo
  change fromId (cursor.behind (todo.take n)).windowStart lines = _
  unfold behind
  rw [arrange_of_ordered hpage]
  split
  · next last hlast =>
    have hid : lastId (todo.take n) = some last.id := by
      rw [lastId, hlast, Option.map_some]
    rw [← Ordered.beyond_eq_behindPage (by rwa [hsplit]) hid, hsplit, ← htodo]
    exact fromId_passing cursor last.id h.below
  · next hnone =>
    -- Nothing came, so nothing was there or nothing was asked for.
    rw [behindPage, lastId, hnone, Option.map_none, htodo]
    rw [List.getLast?_eq_none_iff] at hnone
    rw [hnone, List.nil_append] at hsplit
    exact hsplit.symm

theorem emitted_take (cursor : Cursor) (limits : Limits) {todo : List LogLine} (h : Ordered todo)
    (n : Nat) : cursor.emitted limits (todo.take n) =
      todo.take (min n (limits.maxLines - cursor.linesEmitted)) := by
  rw [emitted, arrange_of_ordered (h.sublist (List.take_sublist n todo)), List.take_take,
    Nat.min_comm]

/-- The end is known after a page that is neither full nor cut. -/
theorem absorb_take_exhausted_iff (cursor : Cursor) (limits : Limits) {todo : List LogLine}
    (h : Ordered todo) :
    (cursor.absorb limits (todo.take limits.pageSize)).exhausted = true ↔
      todo.length < limits.pageSize ∧ todo.length ≤ limits.maxLines - cursor.linesEmitted := by
  change decide (_ ∧ (cursor.emitted limits (todo.take limits.pageSize)).length = _) = true ↔ _
  rw [decide_eq_true_eq, emitted_take cursor limits h, List.length_take, List.length_take]
  omega

theorem absorb_linesEmitted (cursor : Cursor) (limits : Limits) (lines : List LogLine) :
    (cursor.absorb limits lines).linesEmitted =
      cursor.linesEmitted + (cursor.emitted limits lines).length := rfl

end Cursor

namespace PagedSource

variable {φ : Type} [PageFetcher φ]

theorem fetchNext_paged (s : PagedSource φ) : PageSource.fetchNext s = s.fetchNext := rfl

/-- What a fetch can do to a source: the end may be known, a bound may forbid the query, and a query
that is issued fails or brings a page. -/
inductive Fetched (s : PagedSource φ) :
    Except RetrievalError PageOutcome → PagedSource φ → Prop where
  | ended (he : s.cursor.exhausted = true) : Fetched s (.ok .exhausted) s
  | broken (breaker : Breaker) (he : s.cursor.exhausted = false)
      (hb : s.cursor.breaker? s.limits = some breaker) :
      Fetched s (.ok (.circuitBroken breaker))
        { s with cursor := { s.cursor with exhausted := true, tripped := some breaker } }
  | failed (e : RetrievalError) (fetcher : φ) (he : s.cursor.exhausted = false)
      (hb : s.cursor.breaker? s.limits = none)
      (hf : PageFetcher.fetch s.fetcher s.cursor.windowStart s.limits.pageSize =
        (.error e, fetcher)) :
      Fetched s (.error e)
        { s with
          fetcher, cursor := { s.cursor with queriesIssued := s.cursor.queriesIssued + 1 } }
  | loaded (page : Page) (fetcher : φ) (asked : Cursor) (he : s.cursor.exhausted = false)
      (hb : s.cursor.breaker? s.limits = none)
      (hf : PageFetcher.fetch s.fetcher s.cursor.windowStart s.limits.pageSize =
        (.ok page, fetcher))
      (ha : asked = { s.cursor with queriesIssued := s.cursor.queriesIssued + 1 }) :
      Fetched s
        (.ok (if (asked.emitted s.limits page.lines).isEmpty &&
            (asked.absorb s.limits page.lines).exhausted then .exhausted
          else .page ⟨asked.emitted s.limits page.lines, page.status⟩))
        { s with fetcher, cursor := asked.absorb s.limits page.lines }

theorem fetched (s : PagedSource φ) : Fetched s s.fetchNext.1 s.fetchNext.2 := by
  unfold fetchNext
  split
  · next he => exact .ended he
  · next he =>
    have he : s.cursor.exhausted = false := by simpa using he
    split
    · next breaker hb => exact .broken breaker he hb
    · next hb =>
      split
      · next e fetcher hf => exact .failed e fetcher he hb hf
      · next page fetcher hf => exact .loaded page fetcher _ he hb hf rfl

variable {s t : PagedSource φ} {answer : Except RetrievalError PageOutcome}

theorem Fetched.limits_eq (h : s.Fetched answer t) : t.limits = s.limits := by
  cases h <;> rfl

/-- A bound that was named before a fetch stays named. -/
theorem Fetched.quiet (h : s.Fetched answer t) (ht : t.cursor.tripped = none) :
    s.cursor.tripped = none := by
  cases h with
  | ended => exact ht
  | broken => exact nomatch ht
  | failed => exact ht
  | loaded page fetcher asked he hb hf ha =>
    rw [Cursor.absorb_tripped, ha] at ht
    exact ht

/-- A query that is issued names no bound. -/
theorem Fetched.tripped_eq (h : s.Fetched answer t) (hb : s.cursor.breaker? s.limits = none) :
    t.cursor.tripped = s.cursor.tripped := by
  cases h with
  | ended => rfl
  | broken breaker he hb' => exact nomatch hb.symm.trans hb'
  | failed => rfl
  | loaded page fetcher asked he hb hf ha => rw [Cursor.absorb_tripped, ha]

variable [LogBackend φ]

/-- What a source is still to emit, unless a bound is reached first. -/
def ahead (s : PagedSource φ) : List LogLine :=
  if s.cursor.exhausted then [] else fromId s.cursor.windowStart (stored s.fetcher)

theorem ahead_of_open (he : s.cursor.exhausted = false) :
    s.ahead = fromId s.cursor.windowStart (stored s.fetcher) := by
  rw [ahead, if_neg (Bool.eq_false_iff.mp he)]

/-- Moving a source behind an id takes the lines up to it from what lies ahead. -/
theorem ahead_seekPast (h : ∀ line ∈ stored s.fetcher, line.id < .greatest)
    (id : LineId) : (s.seekPast id).ahead = beyond id s.ahead := by
  simp only [ahead, PagedSource.seekPast, Cursor.passing_exhausted]
  split
  · rfl
  · exact s.cursor.fromId_passing id h

/-- The bound on lines is used up, and the next fetch will name it. -/
def Spent (s : PagedSource φ) : Prop :=
  s.cursor.exhausted = false ∧ s.limits.maxLines ≤ s.cursor.linesEmitted

/-- A source owes the lines ahead of it. Once its budget is spent a bound will be named, and any
lines may be called owed. -/
def Owes (s : PagedSource φ) (rest : List LogLine) : Prop := s.ahead = rest ∨ s.Spent

/-- The source pages over a backend that holds the lines; where `sure` holds no query fails. -/
structure PagesOver (sure : Prop) (lines : List LogLine) (s : PagedSource φ) : Prop where
  isLog : IsLog lines
  stored_eq : stored s.fetcher = lines
  pageSize_pos : 0 < s.limits.pageSize
  steady : sure → Steady s.fetcher

theorem Fetched.stored_eq (h : s.Fetched answer t) : stored t.fetcher = stored s.fetcher := by
  have hst := stored_fetch s.fetcher s.cursor.windowStart s.limits.pageSize
  cases h with
  | ended => rfl
  | broken => rfl
  | failed e fetcher he hb hf =>
    rw [hf] at hst
    exact hst
  | loaded page fetcher asked he hb hf ha =>
    rw [hf] at hst
    exact hst

theorem Fetched.steady (h : s.Fetched answer t) (hs : Steady s.fetcher) : Steady t.fetcher := by
  have hsteady := steady_fetch s.fetcher s.cursor.windowStart s.limits.pageSize hs
  cases h with
  | ended => exact hs
  | broken => exact hs
  | failed e fetcher he hb hf =>
    rw [hf] at hsteady
    exact hsteady
  | loaded page fetcher asked he hb hf ha =>
    rw [hf] at hsteady
    exact hsteady

theorem PagesOver.fetchNext {sure : Prop} {lines : List LogLine}
    (h : PagesOver sure lines s) : PagesOver sure lines s.fetchNext.2 where
  isLog := h.isLog
  stored_eq := s.fetched.stored_eq.trans h.stored_eq
  pageSize_pos := by
    rw [s.fetched.limits_eq]
    exact h.pageSize_pos
  steady hs := s.fetched.steady (h.steady hs)

theorem PagesOver.seekPast {sure : Prop} {lines : List LogLine}
    (h : PagesOver sure lines s) (id : LineId) : PagesOver sure lines (s.seekPast id) :=
  ⟨h.isLog, h.stored_eq, h.pageSize_pos, h.steady⟩

theorem Owes.seekPast {sure : Prop} {lines rest : List LogLine}
    (h : PagesOver sure lines s) (ho : s.Owes rest) (id : LineId) :
    (s.seekPast id).Owes (beyond id rest) := by
  rcases ho with rfl | ⟨he, hm⟩
  · left
    rw [← h.stored_eq] at h
    exact ahead_seekPast h.isLog.below id
  · right
    exact ⟨(s.cursor.passing_exhausted id).trans he, by simpa [PagedSource.seekPast] using hm⟩

/-- A query that the bounds allow either fails or takes its page off the front of what lies ahead.
Nothing comes only where nothing lies ahead. Behind a page the source starts behind its last id, if that
is not the highest. -/
theorem fetchNext_of_ordered (hstored : Ordered (stored s.fetcher))
    (hpos : 0 < s.limits.pageSize) (he : s.cursor.exhausted = false)
    (hb : s.cursor.breaker? s.limits = none) :
    s.fetchNext.2.cursor.queriesIssued = s.cursor.queriesIssued + 1 ∧
    ((∃ e, s.fetchNext.1 = .error e ∧ ¬ Steady s.fetcher) ∨
    (s.fetchNext.1 = .ok .exhausted ∧ s.ahead = [] ∧ s.fetchNext.2.cursor.exhausted = true) ∨
    ∃ page, ∃ k, k = min s.limits.pageSize (s.limits.maxLines - s.cursor.linesEmitted) ∧
      s.fetchNext.1 = .ok (.page page) ∧ page.lines = s.ahead.take k ∧ page.lines ≠ [] ∧
      s.fetchNext.2.cursor.linesEmitted = s.cursor.linesEmitted + page.lines.length ∧
      (s.fetchNext.2.cursor.exhausted = true ↔ s.ahead.length < s.limits.pageSize ∧
        s.ahead.length ≤ s.limits.maxLines - s.cursor.linesEmitted) ∧
      ((∀ line ∈ stored s.fetcher, line.id < .greatest) →
        fromId s.fetchNext.2.cursor.windowStart (stored s.fetcher) =
          behindPage (s.ahead.take s.limits.pageSize) (s.ahead.drop s.limits.pageSize))) := by
  -- What the backend guarantees of this query.
  have hsteady := fun e hs =>
    fetch_ne_error s.fetcher s.cursor.windowStart s.limits.pageSize e hs
  have hlines := lines_fetch s.fetcher s.cursor.windowStart s.limits.pageSize
  have hahead := ahead_of_open he
  have hord : Ordered s.ahead := hahead ▸ hstored.sublist List.filter_sublist
  have hf := s.fetched
  generalize s.fetchNext.1 = answer at hf ⊢
  generalize s.fetchNext.2 = t at hf ⊢
  cases hf with
  | ended he' => exact nomatch he.symm.trans he'
  | broken breaker he hb' => exact nomatch hb.symm.trans hb'
  | failed e fetcher he hb hf =>
    rw [hf] at hsteady
    exact ⟨rfl, .inl ⟨e, rfl, fun hs => hsteady e hs rfl⟩⟩
  | loaded page fetcher asked he hb hf ha =>
    refine ⟨(Cursor.absorb_queriesIssued ..).trans (congrArg Cursor.queriesIssued ha), .inr ?_⟩
    obtain ⟨hroom, -⟩ := Cursor.breaker?_eq_none_iff.mp hb
    have hpage : page.lines = s.ahead.take s.limits.pageSize := by
      rw [hlines page (by rw [hf]), hahead]
    have hcount : asked.linesEmitted = s.cursor.linesEmitted := by rw [ha]
    have hwindow := fun hbelow =>
      asked.fromId_absorb s.limits ⟨hstored, hbelow⟩ s.limits.pageSize
    have hend := asked.absorb_take_exhausted_iff s.limits hord
    have hemit := asked.emitted_take s.limits hord s.limits.pageSize
    rw [show asked.windowStart = s.cursor.windowStart by rw [ha], ← hahead] at hwindow
    rw [← hpage] at hend hemit
    rw [hcount] at hend hemit
    -- An empty page with the end known is no page but the end.
    by_cases hnil : s.ahead = []
    · left
      have hknown : (asked.absorb s.limits page.lines).exhausted = true := by
        rw [hend, hnil]
        exact ⟨hpos, Nat.zero_le _⟩
      refine ⟨?_, hnil, hknown⟩
      rw [hemit, hknown, hnil, List.take_nil]
      rfl
    · right
      have hne : (asked.emitted s.limits page.lines) ≠ [] := by
        rw [hemit, Ne, List.take_eq_nil_iff, not_or]
        exact ⟨by omega, hnil⟩
      refine ⟨⟨asked.emitted s.limits page.lines, page.status⟩, _, rfl, by simp [hne], hemit, hne,
        ?_, hend, ?_⟩
      · rw [← hcount]
        rfl
      · rw [hpage]
        exact hwindow

/-- Behind a page of what lies ahead the rest of it is owed, unless the page was cut. -/
theorem PagesOver.owes_drop {sure : Prop} {lines rest : List LogLine} {t : PagedSource φ} {p m : Nat}
    (h : PagesOver sure lines t) (hasc : Ascending rest)
    (hwindow : fromId t.cursor.windowStart lines = behindPage (rest.take p) (rest.drop p))
    (hend : t.cursor.exhausted = true ↔ rest.length < p ∧ rest.length ≤ m)
    (hspent : m ≤ (rest.take (min p m)).length → t.limits.maxLines ≤ t.cursor.linesEmitted) :
    t.Owes (rest.drop (min p m)) := by
  by_cases hcut : m < min p rest.length
  · -- A page that is cut uses up the budget.
    right
    refine ⟨?_, hspent ?_⟩
    · rw [← Bool.not_eq_true, hend]
      omega
    · rw [List.length_take]
      omega
  · left
    rw [Ascending.behindPage_eq (by rwa [List.take_append_drop])] at hwindow
    rw [ahead, h.stored_eq, hwindow]
    split
    · next hknown =>
      rw [hend] at hknown
      exact (List.drop_eq_nil_of_le (by omega)).symm
    · by_cases hfull : p ≤ m
      · rw [Nat.min_eq_left hfull]
      · rw [List.drop_eq_nil_of_le (by omega), List.drop_eq_nil_of_le (by omega)]

/-- Over a log of ascending ids a page comes off the front of what lies ahead, and the rest of it is
owed. -/
theorem fetchNext_of_room {sure : Prop} {lines : List LogLine}
    (h : PagesOver sure lines s) (he : s.cursor.exhausted = false)
    (hb : s.cursor.breaker? s.limits = none) :
    s.fetchNext.2.cursor.queriesIssued = s.cursor.queriesIssued + 1 ∧
    ((∃ e, s.fetchNext.1 = .error e ∧ ¬ sure) ∨
    (s.fetchNext.1 = .ok .exhausted ∧ s.ahead = [] ∧ s.fetchNext.2.cursor.exhausted = true) ∨
    ∃ page, ∃ k, k = min s.limits.pageSize (s.limits.maxLines - s.cursor.linesEmitted) ∧
      s.fetchNext.1 = .ok (.page page) ∧ page.lines = s.ahead.take k ∧ page.lines ≠ [] ∧
      s.fetchNext.2.cursor.linesEmitted = s.cursor.linesEmitted + page.lines.length ∧
      (s.fetchNext.2.cursor.exhausted = true ↔ s.ahead.length < s.limits.pageSize ∧
        s.ahead.length ≤ s.limits.maxLines - s.cursor.linesEmitted) ∧
      s.fetchNext.2.Owes (s.ahead.drop k)) := by
  have hlog : IsLog (stored s.fetcher) := h.stored_eq ▸ h.isLog
  have hasc : Ascending s.ahead := by
    rw [ahead_of_open he]
    exact (hlog.fromId s.cursor.windowStart).ascending
  obtain ⟨hissued, ⟨e, hf, hsteady⟩ | hnone | ⟨page, k, rfl, hf, htake, hne, hcount, hend, hwindow⟩⟩ :=
    fetchNext_of_ordered hlog.ascending.ordered h.pageSize_pos he hb
  · exact ⟨hissued, .inl ⟨e, hf, fun hs => hsteady (h.steady hs)⟩⟩
  · exact ⟨hissued, .inr (.inl hnone)⟩
  · have hwindow := hwindow hlog.below
    rw [h.stored_eq] at hwindow
    refine ⟨hissued, .inr (.inr ⟨page, _, rfl, hf, htake, hne, hcount, hend, ?_⟩)⟩
    apply h.fetchNext.owes_drop hasc hwindow hend
    intro hspent
    rw [s.fetched.limits_eq, hcount, htake]
    omega

/-- A fetch that trips no breaker takes its page off the front of what is owed, and finds the end only
where nothing is owed. -/
theorem Owes.fetchNext {sure : Prop} {lines rest : List LogLine}
    (h : PagesOver sure lines s) (ho : s.Owes rest) (hq : s.fetchNext.2.cursor.tripped = none) :
    (s.fetchNext.1 = .ok .exhausted ∧ rest = []) ∨
    (∃ page more, s.fetchNext.1 = .ok (.page page) ∧ page.lines ≠ [] ∧
      rest = page.lines ++ more ∧ s.fetchNext.2.Owes more) ∨
    (∃ e, s.fetchNext.1 = .error e ∧ ¬ sure) := by
  by_cases he : s.cursor.exhausted = true
  · left
    rcases ho with rfl | ⟨hn, -⟩
    · -- The end is known, so nothing lies ahead.
      exact ⟨by rw [PagedSource.fetchNext, if_pos he], by rw [ahead, if_pos he]⟩
    · exact nomatch hn.symm.trans he
  · rw [Bool.not_eq_true] at he
    cases hb : s.cursor.breaker? s.limits with
    | some breaker => simp [PagedSource.fetchNext, he, hb] at hq
    | none =>
      -- A query is issued, so the budget is not spent and what is owed lies ahead.
      obtain ⟨hroom, -⟩ := Cursor.breaker?_eq_none_iff.mp hb
      rcases ho with rfl | ⟨-, hm⟩
      · obtain ⟨-, herr | ⟨hf, hnil, -⟩ | ⟨page, k, -, hf, htake, hne, -, -, hmore⟩⟩ :=
          fetchNext_of_room h he hb
        · exact .inr (.inr herr)
        · exact .inl ⟨hf, hnil⟩
        · refine .inr (.inl ⟨page, _, hf, hne, ?_, hmore⟩)
          rw [htake, List.take_append_drop]
      · omega

end PagedSource

end RunLog
