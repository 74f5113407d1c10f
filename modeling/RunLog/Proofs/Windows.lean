import Mathlib.Order.Bounds.Defs
import RunLog.Proofs.Calls

namespace RunLog

/-- The backend kept to the window: no line came from before it. -/
def Exchange.Honest (x : Exchange) : Prop := ∀ id ∈ x.ids, x.windowStart ≤ id

theorem LineId.isGreatest_of_mem_iff {xs ys : List LineId} (h : ∀ id, id ∈ xs ↔ id ∈ ys) {top : LineId}
    (htop : IsGreatest {id | id ∈ xs} top) : IsGreatest {id | id ∈ ys} top :=
  ⟨(h top).mp htop.1, fun id hid => htop.2 ((h id).mpr hid)⟩

namespace Cursor

variable {cursor : Cursor} {marks : List LineId}

/-- A cursor at the highest of some marks passes an id to the highest of them and its successor. -/
theorem isGreatest_passing (h : IsGreatest {w | w ∈ marks} cursor.windowStart) (id : LineId) :
    IsGreatest {w | w ∈ marks ++ [id.next]} (cursor.passing id).windowStart := by
  obtain ⟨hmem, hle⟩ := h
  unfold passing
  split
  · next hlt =>
    refine ⟨List.mem_append_right _ List.mem_cons_self, ?_⟩
    intro w hw
    rcases List.mem_append.mp hw with hold | hnew
    · exact LineId.le_trans (hle hold) (LineId.le_of_lt hlt)
    · rw [List.mem_singleton.mp hnew]
      exact LineId.le_refl id.next
  · next hge =>
    refine ⟨List.mem_append_left _ hmem, ?_⟩
    intro w hw
    rcases List.mem_append.mp hw with hold | hnew
    · exact hle hold
    · rw [List.mem_singleton.mp hnew]
      exact LineId.not_lt.mp hge

/-- The last of the arranged lines has the highest id, so passing it passes all of them. -/
theorem isGreatest_behind (h : IsGreatest {w | w ∈ marks} cursor.windowStart)
    (lines : List LogLine) :
    IsGreatest {w | w ∈ marks ++ lines.map fun line => line.id.next}
      (cursor.behind lines).windowStart := by
  have hperm := arrange_perm lines
  have hord := ordered_arrange lines
  unfold behind
  split
  · next last hlast =>
    obtain ⟨front, hfront⟩ := List.getLast?_eq_some_iff.mp hlast
    rw [hfront] at hperm hord
    obtain ⟨hmem, hle⟩ := isGreatest_passing h last.id
    have hin : last ∈ lines := hperm.mem_iff.mp (List.mem_append_right _ List.mem_cons_self)
    refine ⟨?_, ?_⟩
    · rcases List.mem_append.mp hmem with hold | hnew
      · exact List.mem_append_left _ hold
      · apply List.mem_append_right
        rw [List.mem_singleton.mp hnew]
        exact List.mem_map_of_mem hin
    · intro w hw
      rcases List.mem_append.mp hw with hold | hnew
      · exact hle (List.mem_append_left _ hold)
      · obtain ⟨line, hline, rfl⟩ := List.mem_map.mp hnew
        have hlast : last.id.next ≤ (cursor.passing last.id).windowStart :=
          hle (List.mem_append_right _ List.mem_cons_self)
        rcases List.mem_append.mp (hperm.mem_iff.mpr hline) with hfront | hsame
        · have hbefore : line.id ≤ last.id :=
            (List.pairwise_append.mp hord).2.2 line hfront last List.mem_cons_self
          exact LineId.le_trans (LineId.next_le_next hbefore) hlast
        · rw [List.mem_singleton.mp hsame]
          exact hlast
  · next hnone =>
    -- No line came, and the cursor stays.
    rw [List.getLast?_eq_none_iff] at hnone
    rw [hnone, List.nil_perm] at hperm
    rw [hperm, List.map_nil, List.append_nil]
    exact h

end Cursor

namespace PagedRun

variable {φ : Type} [PageFetcher φ] {windowStart : LineId} {run : PagedRun φ}

omit [PageFetcher φ] in
theorem returned_of_requests {after : PagedRun φ} {x : Exchange}
    (h : after.requests = run.requests ++ [x]) : after.returned = run.returned ++ x.ids := by
  rw [returned, h, List.flatMap_append, List.flatMap_singleton]
  rfl

/-- A window starts at the highest successor of the ids that came or were sought so far, and it was
never later before. -/
structure Positioned (windowStart : LineId) (run : PagedRun φ) : Prop where
  highest : IsGreatest {w | w ∈ windowStart :: (run.returned ++ run.sought).map LineId.next}
    run.source.cursor.windowStart
  asked : (run.requests.map Exchange.windowStart).Pairwise (· ≤ ·)
  asked_le : ∀ x ∈ run.requests, x.windowStart ≤ run.source.cursor.windowStart

omit [PageFetcher φ] in
theorem Positioned.next_le (h : Positioned windowStart run) {id : LineId}
    (hid : id ∈ run.returned ++ run.sought) : id.next ≤ run.source.cursor.windowStart :=
  h.highest.2 (List.mem_cons_of_mem _ (List.mem_map_of_mem hid))

omit [PageFetcher φ] in
theorem positioned_start (backend : φ) (windowStart : LineId) (limits : Limits) :
    Positioned windowStart (start backend windowStart limits) where
  highest := by
    refine ⟨List.mem_cons_self, ?_⟩
    intro w hw
    rw [List.mem_singleton.mp hw]
    exact LineId.le_refl windowStart
  asked := .nil
  asked_le := nofun

omit [PageFetcher φ] in
/-- A request is for the window at which the source stands. -/
theorem Positioned.of_requests (h : Positioned windowStart run) {after : PagedRun φ} {limit : Nat}
    {answer : Except RetrievalError Page}
    (hrequests : after.requests =
      run.requests ++ [⟨run.source.cursor.windowStart, limit, answer⟩])
    (hle : run.source.cursor.windowStart ≤ after.source.cursor.windowStart) :
    (after.requests.map Exchange.windowStart).Pairwise (· ≤ ·) ∧
      ∀ x ∈ after.requests, x.windowStart ≤ after.source.cursor.windowStart := by
  rw [hrequests]
  refine ⟨?_, ?_⟩
  · rw [List.map_append, List.pairwise_append]
    refine ⟨h.asked, List.pairwise_singleton _ _, ?_⟩
    intro before hbefore last hlast
    obtain ⟨x, hx, rfl⟩ := List.mem_map.mp hbefore
    rw [List.mem_singleton.mp hlast]
    exact h.asked_le x hx
  · intro x hx
    rcases List.mem_append.mp hx with hold | hnew
    · exact LineId.le_trans (h.asked_le x hold) hle
    · rw [List.mem_singleton.mp hnew]
      exact hle

theorem Positioned.fetchNext (h : Positioned windowStart run) :
    Positioned windowStart (run.call .fetchNext) := by
  have hsought : (run.call .fetchNext).sought = run.sought := rfl
  rcases run.fetchNext_cases with ⟨-, hrequests, hwindow, -⟩ | ⟨e, hrequests, hwindow, -⟩ |
    ⟨page, hrequests, hwindow, -⟩
  · refine ⟨?_, ?_, ?_⟩
    · rw [returned, hrequests, hwindow, hsought]
      exact h.highest
    · rw [hrequests]
      exact h.asked
    · rw [hrequests, hwindow]
      exact h.asked_le
  · -- A failed request brings no ids.
    have hreturned : (run.call .fetchNext).returned = run.returned :=
      (returned_of_requests hrequests).trans (List.append_nil _)
    have hasked := h.of_requests hrequests (hwindow ▸ LineId.le_refl _)
    refine ⟨?_, hasked.1, hasked.2⟩
    rw [hreturned, hwindow, hsought]
    exact h.highest
  · have hbehind := Cursor.isGreatest_behind h.highest page.lines
    have hreturned : (run.call .fetchNext).returned = run.returned ++ page.lines.map LogLine.id :=
      returned_of_requests hrequests
    rw [← hwindow] at hbehind
    have hasked := h.of_requests hrequests (hbehind.2 (List.mem_append_left _ h.highest.1))
    refine ⟨LineId.isGreatest_of_mem_iff ?_ hbehind, hasked.1, hasked.2⟩
    intro w
    rw [hreturned, hsought]
    simp only [List.mem_append, List.mem_cons, List.mem_map, List.map_append, List.map_map,
      Function.comp_apply]
    rw [or_assoc, or_right_comm]

theorem Positioned.call (h : Positioned windowStart run) (call : SourceCall) :
    Positioned windowStart (run.call call) := by
  cases call with
  | fetchNext => exact h.fetchNext
  | close => exact ⟨h.highest, h.asked, h.asked_le⟩
  | seekPast id =>
    have hpassing := Cursor.isGreatest_passing h.highest id
    refine ⟨LineId.isGreatest_of_mem_iff ?_ hpassing, h.asked, ?_⟩
    · intro w
      change _ ↔ w ∈ windowStart :: (run.returned ++ (run.sought ++ [id])).map LineId.next
      have hmap : (run.returned ++ (run.sought ++ [id])).map LineId.next =
          (run.returned ++ run.sought).map LineId.next ++ [id.next] := by
        rw [← List.append_assoc]
        exact List.map_append
      rw [hmap]
      rfl
    · intro x hx
      exact LineId.le_trans (h.asked_le x hx) (hpassing.2 (List.mem_append_left _ h.highest.1))

/-- All lines given out are in order, and each of them came from the backend. -/
structure InOrder (run : PagedRun φ) : Prop where
  ordered : Ordered run.emitted
  came : ∀ line ∈ run.emitted, line.id ∈ run.returned

/-- What a run asked before a call, it has asked after it. -/
theorem requests_prefix_call (run : PagedRun φ) (call : SourceCall) :
    run.requests <+: (run.call call).requests := by
  cases call with
  | fetchNext =>
    rcases run.requests_fetchNext with hsame | ⟨answer, hmore⟩
    · exact hsame ▸ List.prefix_rfl
    · exact hmore ▸ List.prefix_append _ _
  | seekPast id => exact List.prefix_rfl
  | close => exact List.prefix_rfl

/-- Where the backend keeps to the windows, a fetch gives out lines from the window on. -/
theorem windowStart_le_of_fetchNext
    (hhonest : ∀ x ∈ (run.call .fetchNext).requests, x.Honest) :
    ∀ line ∈ given run.source.fetchNext.1, run.source.cursor.windowStart ≤ line.id := by
  intro line hline
  rcases run.given_fetchNext_cases with hnil | ⟨page, hrequests, hgiven⟩
  · rw [hnil] at hline
    exact nomatch hline
  · rw [hgiven] at hline
    rw [hrequests] at hhonest
    have hcame : line ∈ page.lines :=
      (Cursor.arrange_perm page.lines).mem_iff.mp (List.mem_of_mem_take hline)
    exact hhonest _ (List.mem_append_right _ List.mem_cons_self) line.id (List.mem_map_of_mem hcame)

theorem InOrder.fetchNext (h : InOrder run) (hpos : Positioned windowStart run)
    (hhonest : ∀ x ∈ (run.call .fetchNext).requests, x.Honest) :
    InOrder (run.call .fetchNext) := by
  have hnew := windowStart_le_of_fetchNext hhonest
  have hcame : ∀ line ∈ run.emitted, line.id ∈ (run.call .fetchNext).returned := by
    intro line hline
    obtain ⟨more, hmore⟩ := run.requests_prefix_call .fetchNext
    rw [returned, ← hmore, List.flatMap_append]
    exact List.mem_append_left _ (h.came line hline)
  have hbefore : ∀ old ∈ run.emitted, ∀ line ∈ given run.source.fetchNext.1, old.id ≤ line.id := by
    intro old hold line hline
    -- The window starts behind what came before, and the page begins there.
    have hmark : old.id.next ≤ run.source.cursor.windowStart :=
      hpos.next_le (List.mem_append_left _ (h.came old hold))
    exact LineId.le_trans old.id.le_next (LineId.le_trans hmark (hnew line hline))
  refine ⟨?_, ?_⟩
  · rw [emitted_fetchNext, Ordered, List.pairwise_append]
    refine ⟨h.ordered, ?_, hbefore⟩
    rcases run.given_fetchNext_cases with hnil | ⟨page, -, hgiven⟩
    · rw [hnil]
      exact .nil
    · rw [hgiven]
      exact (Cursor.ordered_arrange page.lines).sublist (List.take_sublist _ _)
  · intro line hline
    rw [emitted_fetchNext] at hline
    rcases List.mem_append.mp hline with hold | hfresh
    · exact hcame line hold
    · rcases run.given_fetchNext_cases with hnil | ⟨page, hrequests, hgiven⟩
      · rw [hnil] at hfresh
        exact nomatch hfresh
      · rw [hgiven] at hfresh
        rw [returned_of_requests hrequests]
        apply List.mem_append_right
        apply List.mem_map_of_mem
        exact (Cursor.arrange_perm page.lines).mem_iff.mp (List.mem_of_mem_take hfresh)

theorem InOrder.call (h : InOrder run) (hpos : Positioned windowStart run) (call : SourceCall)
    (hhonest : ∀ x ∈ (run.call call).requests, x.Honest) : InOrder (run.call call) := by
  cases call with
  | fetchNext => exact h.fetchNext hpos hhonest
  | seekPast id => exact ⟨h.ordered, h.came⟩
  | close => exact ⟨h.ordered, h.came⟩

/-- The window of a source starts at the highest of where it began and the successors of all ids that
came or were sought; every request is for that window, so that windows never move back. Where the
backend keeps to the windows, the lines given out are in order, and those of a page lie behind
every id that came or was sought before it, unless both are the highest. -/
theorem windows_ordered (backend : φ) (windowStart : LineId) (limits : Limits)
    (calls : List SourceCall) :
    let run := (start backend windowStart limits).callAll calls
    IsGreatest {w | w ∈ windowStart :: (run.returned ++ run.sought).map LineId.next}
      run.source.cursor.windowStart ∧
    ((run.call .fetchNext).requests = run.requests ∨ ∃ answer, (run.call .fetchNext).requests =
      run.requests ++ [⟨run.source.cursor.windowStart, limits.pageSize, answer⟩]) ∧
    (run.requests.map Exchange.windowStart).Pairwise (· ≤ ·) ∧
    (∀ x ∈ run.requests, x.windowStart ≤ run.source.cursor.windowStart) ∧
    ((∀ x ∈ run.requests, x.Honest) → Ordered run.emitted) ∧
    ((∀ x ∈ (run.call .fetchNext).requests, x.Honest) →
      ∀ page, run.source.fetchNext.1 = .ok (.page page) →
        ∀ line ∈ page.lines, ∀ id ∈ run.returned ++ run.sought,
          id < line.id ∨ id = .greatest ∧ line.id = .greatest) := by
  intro run
  -- What a run keeps of the limits, of its windows and, over an honest backend, of the order.
  obtain ⟨hlimits, hpos, hinOrder⟩ : run.source.limits = limits ∧ Positioned windowStart run ∧
      ((∀ x ∈ run.requests, x.Honest) → InOrder run) := by
    refine callAll_induction
      (motive := fun run => run.source.limits = limits ∧ Positioned windowStart run ∧
        ((∀ x ∈ run.requests, x.Honest) → InOrder run))
      ⟨rfl, positioned_start backend windowStart limits, fun _ => ⟨.nil, nofun⟩⟩ ?_ calls
    rintro before call ⟨hlimits, hpos, hinOrder⟩
    refine ⟨(before.limits_call call).trans hlimits, hpos.call call, ?_⟩
    intro hhonest
    have hearlier : ∀ x ∈ before.requests, x.Honest :=
      fun x hx => hhonest x ((before.requests_prefix_call call).subset hx)
    exact (hinOrder hearlier).call hpos call hhonest
  refine ⟨hpos.highest, ?_, hpos.asked, hpos.asked_le, fun hhonest => (hinOrder hhonest).ordered, ?_⟩
  · rw [← hlimits]
    exact run.requests_fetchNext
  · intro hhonest page hpage line hline id hid
    apply LineId.lt_or_eq_greatest_of_next_le
    have hgiven : line ∈ given run.source.fetchNext.1 := by
      rw [hpage]
      exact List.mem_flatMap.mpr ⟨page, List.mem_cons_self, hline⟩
    exact LineId.le_trans (hpos.next_le hid) (windowStart_le_of_fetchNext hhonest line hgiven)

end PagedRun

end RunLog
