import RunLog.Proofs.Paging
import RunLog.Stream

/-! Looking ahead in a sequence of lines. `Yields` says that a sequence over a paged log has the given
lines still to give, wherever they are kept: in its buffer, in pages to come, or behind a bound that
no fetch has named yet. Main statements: each operation answers as the list of those lines does. -/

namespace RunLog.LineSequence

section Lookahead

variable {σ : Type} [PageSupply σ] {seq : LineSequence σ}

theorem hasNext_of_ended (hb : seq.buffer = []) (ho : seq.state ≠ .opened)
    (hc : seq.state ≠ .closed) : seq.hasNext = (.ok false, seq) := by
  rw [hasNext]
  cases hs : seq.state <;> simp_all

theorem hasNext_of_opened (hb : seq.buffer = []) (ho : seq.state = .opened) :
    seq.hasNext =
      let source := (PageSupply.fetchNext seq.source).2
      match (PageSupply.fetchNext seq.source).1 with
      | .ok (.page page) =>
        hasNext { seq with source, buffer := page.lines, highWater := raised seq.highWater page }
      | .ok .exhausted => (.ok false, { seq with source, state := .exhausted })
      | .ok (.circuitBroken _) => (.ok seq.marker,
        { seq with
          source, state := .exhausted, buffer := if seq.marker then [seq.markerLine] else [] })
      | .error e => (.error e, { seq with source, state := .failed }) := by
  rw [hasNext, if_pos (by simp [hb])]
  simp only [ho]
  split
  · next hf => simp only [hf]
  · next hf => simp only [hf]
  · next hf => cases hm : seq.marker <;> simp [hf, hb]
  · next hf => simp only [hf]

theorem isClosed_hasNext (seq : LineSequence σ) : seq.hasNext.2.isClosed = seq.isClosed := by
  fun_induction hasNext seq with
  | case4 seq hb hs answer page h ih => simpa [isClosed, hs] using ih
  | _ => simp_all [isClosed]

theorem nextLine_eq (seq : LineSequence σ) :
    seq.nextLine = match seq.hasNext.1 with
      | .error e => (.error e, seq.hasNext.2)
      | .ok false => (.ok none, seq.hasNext.2)
      | .ok true =>
        (.ok seq.hasNext.2.buffer.head?,
          { seq.hasNext.2 with buffer := seq.hasNext.2.buffer.tail }) := by
  unfold nextLine
  generalize seq.hasNext = r
  obtain ⟨_ | _ | _, t⟩ := r <;> rfl

theorem ended_of_hasNext (h : seq.hasNext.1 = .ok false) :
    seq.hasNext.2.buffer = [] ∧ seq.hasNext.2.state ≠ .opened ∧ seq.hasNext.2.state ≠ .closed := by
  revert h
  fun_induction hasNext seq with
  | case4 seq hb hs answer page h ih => exact ih
  | case7 seq hb hs answer breaker h ended hm =>
    intro _
    exact ⟨by simpa using hb, by simp [ended], by simp [ended]⟩
  | _ => simp_all

theorem buffer_ne_nil_of_hasNext (h : seq.hasNext.1 = .ok true) : seq.hasNext.2.buffer ≠ [] := by
  revert h
  fun_induction hasNext seq with
  | case4 seq hb hs answer page h ih => exact ih
  | _ => simp_all

theorem failed_of_hasNext {e : RetrievalError} (ho : seq.isClosed = false)
    (h : seq.hasNext.1 = .error e) : seq.hasNext.2.buffer = [] ∧ seq.hasNext.2.state = .failed := by
  revert ho h
  fun_induction hasNext seq with
  | case4 seq hb hs answer page h ih => exact fun _ => ih (by simp [isClosed, hs])
  | _ => simp_all [isClosed]

theorem hasNext_hasNext {more : Bool} (h : seq.hasNext.1 = .ok more) :
    seq.hasNext.2.hasNext = (.ok more, seq.hasNext.2) := by
  cases more with
  | true => exact hasNext_of_buffer_ne_nil (buffer_ne_nil_of_hasNext h)
  | false =>
    obtain ⟨hb, ho, hc⟩ := ended_of_hasNext h
    exact hasNext_of_ended hb ho hc

theorem hasNext_of_nextLine_none (h : seq.nextLine.1 = .ok none) :
    seq.hasNext.1 = .ok false ∧ seq.nextLine.2 = seq.hasNext.2 := by
  rw [nextLine_eq] at h ⊢
  cases hn : seq.hasNext.1 with
  | error e => exact nomatch hn ▸ h
  | ok more =>
    cases more with
    | false => exact ⟨rfl, rfl⟩
    | true =>
      obtain ⟨line, others, hcons⟩ := List.exists_cons_of_ne_nil (buffer_ne_nil_of_hasNext hn)
      simp [hn, hcons] at h

/-- Behind the answer that there is no line nothing changes any more. -/
theorem nextLine_of_none (h : seq.nextLine.1 = .ok none) :
    seq.nextLine.2.nextLine = (.ok none, seq.nextLine.2) := by
  obtain ⟨hfalse, heq⟩ := hasNext_of_nextLine_none h
  rw [heq, nextLine_eq, hasNext_hasNext hfalse]

theorem nextLine_source (seq : LineSequence σ) : seq.nextLine.2.source = seq.hasNext.2.source := by
  rw [nextLine_eq]
  split <;> rfl

theorem isClosed_nextLine (seq : LineSequence σ) : seq.nextLine.2.isClosed = seq.isClosed := by
  rw [← isClosed_hasNext seq, nextLine_eq]
  split <;> rfl

end Lookahead

variable {φ : Type} [PageFetcher φ]

/-- A breaker that has tripped stays so while a sequence looks ahead. -/
theorem tripped_of_hasNext {seq : LineSequence (PagedSource φ)}
    (h : seq.hasNext.2.source.cursor.tripped = none) : seq.source.cursor.tripped = none := by
  revert h
  -- By induction on the pages that are fetched; in the other cases there was one fetch or none.
  fun_induction hasNext seq with
  | case4 seq hb hs answer page h ih =>
    intro hq
    exact (PagedSource.fetched _).quiet (ih hq)
  | case1 | case2 | case3 | case9 => exact id
  | _ => exact (PagedSource.fetched _).quiet

theorem tripped_fetchNext_of_hasNext {seq : LineSequence (PagedSource φ)} (hb : seq.buffer = [])
    (ho : seq.state = .opened) (h : seq.hasNext.2.source.cursor.tripped = none) :
    seq.source.fetchNext.2.cursor.tripped = none := by
  rw [hasNext_of_opened hb ho] at h
  simp only [PagedSource.fetchNext_paged] at h
  split at h
  · exact tripped_of_hasNext h
  · exact h
  · exact h
  · exact h

variable [LogBackend φ]

/-- A sequence over a backend that holds `lines` has `rest` still to give: its buffer, and behind it
what its source owes. Where `sure` holds no fetch fails. -/
structure Yields (sure : Prop) (lines : List LogLine) (seq : LineSequence (PagedSource φ))
    (rest : List LogLine) : Prop where
  pages : seq.source.PagesOver sure lines
  ascending : Ascending rest
  split : ∃ tail, rest = seq.buffer ++ tail ∧ (seq.state = .opened → seq.source.Owes tail) ∧
    (seq.state ≠ .opened → tail = [])

theorem Yields.start {backend : φ} {sure : Prop} (h : IsLog (LogBackend.stored backend))
    (hs : sure → LogBackend.Steady backend) (start : LineId) {limits : Limits}
    (hp : 0 < limits.pageSize) (marker : Bool) :
    Yields sure (LogBackend.stored backend) { source := .start backend start limits, marker }
      (fromId start (LogBackend.stored backend)) where
  pages := ⟨h, rfl, hp, hs⟩
  ascending := (h.fromId start).ascending
  split := ⟨_, rfl, fun _ => .inl rfl, fun hne => absurd rfl hne⟩

variable {sure : Prop} {lines rest : List LogLine} {seq : LineSequence (PagedSource φ)}

/-- Looking ahead tells whether a line is left and keeps what is left, or a fetch fails. -/
theorem Yields.hasNext (h : Yields sure lines seq rest) (hc : seq.isClosed = false)
    (hq : seq.hasNext.2.source.cursor.tripped = none) :
    (seq.hasNext.1 = .ok !rest.isEmpty ∧ Yields sure lines seq.hasNext.2 rest ∧
      (rest ≠ [] → seq.hasNext.2.buffer ≠ [])) ∨
    (∃ e, seq.hasNext.1 = .error e) ∧ ¬ sure := by
  -- Only with an empty buffer does anything happen, and then one fetch decides.
  obtain ⟨tail, hrest, howes, hnil⟩ := h.split
  by_cases hb : seq.buffer = []
  · rw [hb, List.nil_append] at hrest
    subst hrest
    by_cases ho : seq.state = .opened
    · have hpages := h.pages.fetchNext
      have hfetch := (howes ho).fetchNext h.pages (tripped_fetchNext_of_hasNext hb ho hq)
      rw [hasNext_of_opened hb ho] at hq ⊢
      rcases hfetch with ⟨hf, rfl⟩ | ⟨page, more, hf, hne, rfl, hmore⟩ | ⟨e, hf, hsure⟩
      · left
        simp only [PagedSource.fetchNext_paged, hf] at hq ⊢
        exact ⟨rfl, ⟨hpages, h.ascending, [], by simp [hb], nofun, fun _ => rfl⟩,
          fun hne => absurd rfl hne⟩
      · left
        simp only [PagedSource.fetchNext_paged, hf]
        -- The page is not empty, so the sequence does not look further.
        rw [hasNext_of_buffer_ne_nil (by exact hne)]
        exact ⟨by simp [hne],
          ⟨hpages, h.ascending, more, rfl, fun _ => hmore, fun hn => absurd ho hn⟩, fun _ => hne⟩
      · right
        simp only [PagedSource.fetchNext_paged, hf]
        exact ⟨⟨e, rfl⟩, hsure⟩
    · left
      have hend := hnil ho
      have hclosed : seq.state ≠ .closed := by simpa [isClosed] using hc
      rw [hasNext_of_ended hb ho hclosed]
      exact ⟨by simp [hend], h, fun hne => absurd hend hne⟩
  · left
    rw [hasNext_of_buffer_ne_nil hb]
    exact ⟨by simp [hrest, hb], h, fun _ => hb⟩

/-- The next line is the first that is left, or a fetch fails. -/
theorem Yields.nextLine (h : Yields sure lines seq rest) (hc : seq.isClosed = false)
    (hq : seq.nextLine.2.source.cursor.tripped = none) :
    (seq.nextLine.1 = .ok rest.head? ∧ Yields sure lines seq.nextLine.2 rest.tail) ∨
    (∃ e, seq.nextLine.1 = .error e) ∧ ¬ sure := by
  rw [nextLine_source] at hq
  rw [nextLine_eq]
  rcases h.hasNext hc hq with ⟨hans, hy, hbuf⟩ | ⟨⟨e, he⟩, hsure⟩
  · left
    rw [hans]
    cases rest with
    | nil => exact ⟨rfl, hy⟩
    | cons line more =>
      -- The sequence has looked ahead, so the first line is at hand.
      obtain ⟨tail, hsplit, howes, hnil⟩ := hy.split
      obtain ⟨first, others, hcons⟩ := List.exists_cons_of_ne_nil (hbuf (by simp))
      rw [hcons, List.cons_append] at hsplit
      obtain ⟨rfl, rfl⟩ := List.cons.inj hsplit
      refine ⟨by simp [hcons], hy.pages, (List.pairwise_cons.mp hy.ascending).2, tail, ?_,
        howes, hnil⟩
      simp [hcons]
  · right
    rw [he]
    exact ⟨⟨e, rfl⟩, hsure⟩

/-- Skipping to an id takes the lines up to it from what is left. -/
theorem Yields.skipTo (h : Yields sure lines seq rest) (id : LineId) :
    Yields sure lines (seq.skipTo id) (beyond id rest) := by
  obtain ⟨tail, hrest, howes, hnil⟩ := h.split
  -- The buffer drops its part of the lines, and the source passes over its own.
  have hbuf : Ascending seq.buffer :=
    h.ascending.sublist (hrest ▸ List.sublist_append_left seq.buffer tail)
  refine ⟨h.pages.seekPast id, h.ascending.sublist List.filter_sublist, beyond id tail, ?_, ?_, ?_⟩
  · change beyond id rest = seq.buffer.dropWhile (fun line => line.id ≤ id) ++ _
    rw [hrest, beyond_append, hbuf.ordered.dropWhile_eq_beyond]
  · exact fun ho => (howes ho).seekPast h.pages id
  · intro ho
    rw [hnil ho]
    rfl

end RunLog.LineSequence
