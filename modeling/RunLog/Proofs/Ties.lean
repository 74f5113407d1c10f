import RunLog.Proofs.Budget

namespace RunLog

open PagedSource LogBackend

variable {φ : Type} [PageFetcher φ] [LogBackend φ]

/-- Where no bound ends the paging of an ordered log, the pages give what is kept of it: lines of the
log in their order, some of every run of one id, and all of them exactly where no page boundary lies
within a run. -/
theorem paging_tied (backend : φ) (hlog : IsTiedLog (stored backend)) (hsteady : Steady backend)
    (start : LineId) (limits : Limits) (hpage : 0 < limits.pageSize)
    (hquiet : ∀ breaker, (PageSource.drain (PagedSource.start backend start limits)).2.1 ≠
      .ok (.circuitBroken breaker)) :
    let source := PagedSource.start backend start limits
    let lines := fromId start (stored backend)
    let emitted := (PageSource.drain source).1.flatMap Page.lines
    (PageSource.drain source).2.1 = .ok .exhausted ∧
    emitted = kept limits.pageSize hpage lines ∧
    emitted.Sublist lines ∧
    (∀ line ∈ lines, ∃ other ∈ emitted, other.id = line.id) ∧
    (emitted = lines ↔ ¬ SplitsRun limits.pageSize lines) := by
  intro source lines emitted
  have hord : Ordered lines := hlog.ordered.sublist List.filter_sublist
  have hdrained : Drained source (kept limits.pageSize hpage lines) limits.maxLines
      limits.maxQueries :=
    drained_of_ordered hlog hsteady hpage rfl (Nat.zero_add _) (Nat.zero_add _)
  have hend : (PageSource.drain source).2.1 = .ok .exhausted ∧
      emitted = kept limits.pageSize hpage lines := hdrained.of_quiet hpage hquiet
  obtain ⟨hout, hemitted⟩ := hend
  refine ⟨hout, hemitted, ?_, ?_, ?_⟩
  · rw [hemitted]
    exact kept_sublist
  · rw [hemitted]
    exact fun line hline => exists_mem_kept hord hline
  · rw [hemitted]
    exact kept_eq_self_iff hord

theorem paging_tied_tiedLines :
    let source := PagedSource.start (⟨tiedLines⟩ : StoredLog) .least { pageSize := 2 }
    (PageSource.drain source).2.1 = .ok .exhausted ∧
    (PageSource.drain source).1.flatMap Page.lines = tiedLines := by
  intro source
  have hkept : kept 2 (by decide) tiedLines = tiedLines := by
    rw [kept_of_lt (by decide), kept_of_length_le (by decide)]
    rfl
  -- Three lines and two queries are far from both bounds.
  have hout : (PageSource.drain source).2.1 = .ok (pagingEnd 2 (kept 2 _ tiedLines).length _ _).1 :=
    (drained_of_ordered isTiedLog_tiedLines trivial (by decide) rfl (Nat.zero_add _)
      (Nat.zero_add _)).outcome
  have hquiet : ∀ breaker, (PageSource.drain source).2.1 ≠ .ok (.circuitBroken breaker) := by
    rw [hout, hkept, pagingEnd_exhausted_iff.mpr (by decide)]
    exact nofun
  obtain ⟨hend, hemitted, -⟩ :=
    paging_tied (⟨tiedLines⟩ : StoredLog) isTiedLog_tiedLines trivial .least { pageSize := 2 }
      (by decide) hquiet
  exact ⟨hend, hemitted.trans hkept⟩

/-- With single lines asked for, the second of two lines with one id never comes, and paging ends as if
it were not there. -/
theorem tied_line_lost :
    let source := PagedSource.start (⟨tiedLines⟩ : StoredLog) .least { pageSize := 1 }
    IsTiedLog tiedLines ∧
    (PageSource.drain source).2.1 = .ok .exhausted ∧
    ⟨⟨10⟩, "b"⟩ ∈ fromId .least tiedLines ∧
    ⟨⟨10⟩, "b"⟩ ∉ (PageSource.drain source).1.flatMap Page.lines := by
  intro source
  have hkept : kept 1 (by decide) tiedLines = [⟨⟨10⟩, "a"⟩, ⟨⟨20⟩, "c"⟩] := by
    rw [kept_of_lt (by decide), kept_of_length_le (by decide)]
    rfl
  have hdrained : Drained source (kept 1 (by decide) tiedLines) _ _ :=
    drained_of_ordered isTiedLog_tiedLines trivial (by decide) rfl (Nat.zero_add _) (Nat.zero_add _)
  have hout := hdrained.outcome
  rw [hkept, pagingEnd_exhausted_iff.mpr (by decide)] at hout
  have hquiet : ∀ breaker, (PageSource.drain source).2.1 ≠ .ok (.circuitBroken breaker) := by
    rw [hout]
    exact nofun
  refine ⟨isTiedLog_tiedLines, hout, by decide, ?_⟩
  rw [(hdrained.of_quiet (by decide) hquiet).2, hkept]
  decide

end RunLog
