import RunLog.Proofs.Reading

namespace RunLog

open LogBackend

namespace PagedSource

variable {φ : Type} [PageFetcher φ] [LogBackend φ] {lines : List LogLine} {s : PagedSource φ}

/-- The source pages over a steady backend, no breaker has tripped, and both bounds have room for what
lies ahead and for the query that finds its end. -/
structure Roomy (lines : List LogLine) (s : PagedSource φ) : Prop where
  pages : s.PagesOver True lines
  tripped : s.cursor.tripped = none
  room : s.cursor.exhausted = true ∨
    (s.cursor.linesEmitted + s.ahead.length < s.limits.maxLines ∧
      s.cursor.queriesIssued + s.ahead.length / s.limits.pageSize < s.limits.maxQueries)

theorem roomy_start {backend : φ} (hlog : IsLog (stored backend)) (hsteady : Steady backend)
    (start : LineId) {limits : Limits} (hp : 0 < limits.pageSize)
    (hm : (fromId start (stored backend)).length < limits.maxLines)
    (hq : (fromId start (stored backend)).length / limits.pageSize < limits.maxQueries) :
    Roomy (stored backend) (PagedSource.start backend start limits) where
  pages := ⟨hlog, rfl, hp, fun _ => hsteady⟩
  tripped := rfl
  room := by
    right
    change 0 + (fromId start (stored backend)).length < _ ∧
      0 + (fromId start (stored backend)).length / _ < _
    rw [Nat.zero_add, Nat.zero_add]
    exact ⟨hm, hq⟩

theorem Roomy.fetchNext (h : Roomy lines s) : Roomy lines s.fetchNext.2 := by
  by_cases he : s.cursor.exhausted = true
  · have hsame : s.fetchNext.2 = s := by rw [PagedSource.fetchNext, if_pos he]
    rw [hsame]
    exact h
  · obtain ⟨hm, hq⟩ := h.room.resolve_left he
    rw [Bool.not_eq_true] at he
    have hb : s.cursor.breaker? s.limits = none := by
      apply Cursor.breaker?_eq_none_iff.mpr
      exact ⟨Nat.lt_of_le_of_lt (Nat.le_add_right _ _) hm,
        Nat.lt_of_le_of_lt (Nat.le_add_right _ _) hq⟩
    refine ⟨h.pages.fetchNext, (s.fetched.tripped_eq hb).trans h.tripped, ?_⟩
    -- A query is issued: no room is needed once the end is known.
    obtain ⟨hissued, ⟨e, -, hsure⟩ | ⟨-, -, hend⟩ | ⟨page, k, hk, -, htake, -, hcount, hend, hmore⟩⟩ :=
      fetchNext_of_room h.pages he hb
    · exact absurd trivial hsure
    · exact .inl hend
    · rw [s.fetched.limits_eq, hissued, hcount, htake, List.length_take, hend]
      by_cases hshort : s.ahead.length < s.limits.pageSize
      · left
        exact ⟨hshort, by omega⟩
      · -- The page is full: a page of lines and one query are used up, and as much less lies ahead.
        right
        have hfull : k = s.limits.pageSize := by omega
        have hpos := h.pages.pageSize_pos
        rw [hfull] at hmore ⊢
        rcases hmore with hahead | ⟨-, hspent⟩
        · have hdiv : s.ahead.length / s.limits.pageSize =
              (s.ahead.length - s.limits.pageSize) / s.limits.pageSize + 1 :=
            Nat.div_eq_sub_div hpos (by omega)
          rw [hahead, List.length_drop]
          omega
        · rw [s.fetched.limits_eq, hcount, htake, hfull, List.length_take] at hspent
          omega

theorem Roomy.seekPast (h : Roomy lines s) (id : LineId) : Roomy lines (s.seekPast id) := by
  refine ⟨h.pages.seekPast id, ?_, ?_⟩
  · exact (s.cursor.passing_tripped id).trans h.tripped
  · by_cases he : s.cursor.exhausted = true
    · left
      exact (s.cursor.passing_exhausted id).trans he
    · right
      obtain ⟨hm, hq⟩ := h.room.resolve_left he
      -- What lies ahead only gets less, and nothing is spent.
      have hlog : IsLog (stored s.fetcher) := h.pages.stored_eq ▸ h.pages.isLog
      have hahead := ahead_seekPast hlog.below id
      have hle : (s.seekPast id).ahead.length ≤ s.ahead.length := by
        rw [hahead]
        exact List.length_filter_le ..
      have hemitted : (s.seekPast id).cursor.linesEmitted = s.cursor.linesEmitted :=
        s.cursor.passing_linesEmitted id
      have hissued : (s.seekPast id).cursor.queriesIssued = s.cursor.queriesIssued :=
        s.cursor.passing_queriesIssued id
      have hdiv := Nat.div_le_div_right (c := s.limits.pageSize) hle
      rw [hemitted, hissued]
      change _ < s.limits.maxLines ∧ _ + _ / s.limits.pageSize < s.limits.maxQueries
      omega

end PagedSource

namespace LineSequence

variable {φ : Type} [PageFetcher φ] [LogBackend φ] {lines : List LogLine}

theorem roomy_hasNext {seq : LineSequence (PagedSource φ)} (h : seq.source.Roomy lines) :
    seq.hasNext.2.source.Roomy lines := by
  -- Looking ahead is a run of fetches.
  fun_induction hasNext seq with
  | case4 seq hb hs answer page hpage ih => exact ih h.fetchNext
  | case1 | case2 | case3 | case9 => exact h
  | _ => exact h.fetchNext

end LineSequence

namespace ByteStream

variable {φ : Type} [PageFetcher φ] [LogBackend φ] {lines : List LogLine}
  {s : ByteStream (PagedSource φ)}

theorem roomy_read (h : s.lines.source.Roomy lines) (n : Nat) :
    (s.read n).2.lines.source.Roomy lines := by
  rcases s.lines_read n with hl | hl
  · rw [hl]
    exact h
  · rw [hl, LineSequence.nextLine_source]
    exact LineSequence.roomy_hasNext h

theorem roomy_available (h : s.lines.source.Roomy lines) :
    s.available.2.lines.source.Roomy lines := by
  rcases s.lines_available with hl | hl
  · rw [hl]
    exact h
  · rw [hl]
    exact LineSequence.roomy_hasNext h

theorem roomy_skip {μ : Type} [OffsetMapper μ] (h : s.lines.source.Roomy lines) (cursors : μ)
    (n : UInt64) : (s.skip cursors n).2.lines.source.Roomy lines := by
  rcases s.source_skip cursors n with hs | ⟨id, hs⟩
  · rw [hs]
    exact h
  · rw [hs]
    exact h.seekPast id

end ByteStream

end RunLog
