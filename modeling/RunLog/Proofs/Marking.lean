import RunLog.Proofs.Skipping
import RunLog.Proofs.Truncated

namespace RunLog

namespace PagedSource

variable {φ : Type} [PageFetcher φ] {s t : PagedSource φ}
  {answer : Except RetrievalError PageOutcome}

/-- A fetch that ends with no bound names none. -/
theorem Fetched.tripped_of_not_broken (h : s.Fetched answer t)
    (hb : ∀ breaker, answer ≠ .ok (.circuitBroken breaker)) :
    t.cursor.tripped = s.cursor.tripped := by
  cases h with
  | ended => rfl
  | broken breaker => exact absurd rfl (hb breaker)
  | failed => rfl
  | loaded page fetcher asked he hbr hf ha => rw [Cursor.absorb_tripped, ha]

theorem Fetched.tripped_of_broken {breaker : Breaker}
    (h : s.Fetched (.ok (.circuitBroken breaker)) t) : t.cursor.tripped = some breaker := by
  generalize hanswer : (Except.ok (.circuitBroken breaker) : Except RetrievalError PageOutcome) = answer
    at h
  cases h with
  | ended => cases hanswer
  | broken breaker' =>
    cases hanswer
    rfl
  | failed => cases hanswer
  | loaded page fetcher asked he hbr hf ha =>
    split at hanswer <;> cases hanswer

end PagedSource

namespace LineSequence

variable {φ : Type}

/-- The highest id that a sequence keeps is that of the lines passed and of those in its buffer. Once a
bound ended it, there is nothing in the buffer but the mark, which has the highest id passed. -/
structure Accounts (seq : LineSequence (PagedSource φ)) (passed : List LogLine) : Prop where
  running : seq.source.cursor.tripped = none →
    seq.highWater = ((passed ++ seq.buffer).map LogLine.id).max?
  broken : seq.source.cursor.tripped ≠ none → seq.state ≠ .opened ∧
    (seq.buffer = [] ∨
      seq.buffer = [seq.markerLine] ∧ seq.highWater = (passed.map LogLine.id).max?)

theorem accounts_start (backend : φ) (start : LineId) (limits : Limits) (marker : Bool) :
    Accounts { source := .start backend start limits, marker } [] where
  running _ := rfl
  broken h := absurd rfl h

variable {seq : LineSequence (PagedSource φ)} {passed : List LogLine}

/-- Only a sequence that no bound ended fetches. -/
theorem Accounts.tripped_of_opened (h : Accounts seq passed) (ho : seq.state = .opened) :
    seq.source.cursor.tripped = none := by
  refine Decidable.byContradiction fun htripped => ?_
  exact (h.broken htripped).1 ho

variable [PageFetcher φ]

/-- The lines that leave a sequence by a call, as its answer or by being skipped. -/
def passedBy (seq : LineSequence (PagedSource φ)) : SequenceCall → List LogLine
  | .hasNext => []
  | .nextLine => match seq.nextLine.1 with
    | .ok (some line) => [line]
    | _ => []
  | .skipTo id => seq.buffer.takeWhile fun line => line.id ≤ id

def passedByAll (seq : LineSequence (PagedSource φ)) : List SequenceCall → List LogLine
  | [] => []
  | c :: calls => seq.passedBy c ++ passedByAll (seq.call c).2 calls

/-- A fetch that brings no page and names no bound leaves the account as it is. -/
theorem Accounts.settle (h : Accounts seq passed) (ho : seq.state = .opened)
    {answer : Except RetrievalError PageOutcome} {source : PagedSource φ}
    (hf : seq.source.Fetched answer source) (hb : ∀ breaker, answer ≠ .ok (.circuitBroken breaker))
    (state : SequenceState) : Accounts { seq with source, state } passed := by
  have hquiet : source.cursor.tripped = none :=
    (hf.tripped_of_not_broken hb).trans (h.tripped_of_opened ho)
  exact ⟨fun _ => h.running (h.tripped_of_opened ho), fun htripped => absurd hquiet htripped⟩

theorem Accounts.page (h : Accounts seq passed) (hb : seq.buffer = []) (ho : seq.state = .opened)
    {page : Page} {source : PagedSource φ} (hf : seq.source.Fetched (.ok (.page page)) source) :
    Accounts { seq with source, buffer := page.lines, highWater := raised seq.highWater page }
      passed := by
  have hrunning := h.tripped_of_opened ho
  have hquiet : source.cursor.tripped = none :=
    (hf.tripped_of_not_broken (by simp)).trans hrunning
  refine ⟨fun _ => ?_, fun htripped => absurd hquiet htripped⟩
  have hhigh := h.running hrunning
  rw [hb, List.append_nil] at hhigh
  change raised seq.highWater page = _
  rw [raised_eq, hhigh, ← max?_append_ids, ← List.map_append]

theorem Accounts.mark (h : Accounts seq passed) (hb : seq.buffer = []) (ho : seq.state = .opened)
    {breaker : Breaker} {source : PagedSource φ}
    (hf : seq.source.Fetched (.ok (.circuitBroken breaker)) source) (buffer : List LogLine)
    (hbuffer : buffer = [] ∨ buffer = [seq.markerLine]) :
    Accounts { seq with source, buffer, state := .exhausted } passed := by
  have hbroken : source.cursor.tripped ≠ none := by
    rw [hf.tripped_of_broken]
    exact Option.some_ne_none breaker
  refine ⟨fun hquiet => absurd hquiet hbroken, fun _ => ⟨nofun, hbuffer.imp_right fun hmark => ?_⟩⟩
  have hhigh := h.running (h.tripped_of_opened ho)
  rw [hb, List.append_nil] at hhigh
  exact ⟨hmark, hhigh⟩

theorem Accounts.hasNext (h : Accounts seq passed) : Accounts seq.hasNext.2 passed := by
  -- By induction on the pages that are fetched; the cases are those of one fetch.
  fun_induction LineSequence.hasNext seq with
  | case4 seq hb hs answer page hpage ih =>
    have hf := hpage ▸ seq.source.fetched
    exact ih (h.page (by simpa using hb) hs hf)
  | case5 seq hb hs answer hend =>
    exact h.settle hs (hend ▸ seq.source.fetched) (by simp) .exhausted
  | case6 seq hb hs answer breaker hbroken ended hm =>
    exact h.mark (by simpa using hb) hs (hbroken ▸ seq.source.fetched) _ (.inr rfl)
  | case7 seq hb hs answer breaker hbroken ended hm =>
    exact h.mark (by simpa using hb) hs (hbroken ▸ seq.source.fetched) _ (.inl (by simpa using hb))
  | case8 seq hb hs answer e herr =>
    exact h.settle hs (herr ▸ seq.source.fetched) (by simp) .failed
  | _ => exact h

theorem Accounts.nextLine (h : Accounts seq passed) :
    Accounts seq.nextLine.2 (passed ++ seq.passedBy .nextLine) := by
  have hahead := h.hasNext
  rw [passedBy, nextLine_eq]
  cases hnext : seq.hasNext.1 with
  | error e =>
    rw [List.append_nil]
    exact hahead
  | ok more =>
    cases more with
    | false =>
      rw [List.append_nil]
      exact hahead
    | true =>
      obtain ⟨line, others, hcons⟩ := List.exists_cons_of_ne_nil (buffer_ne_nil_of_hasNext hnext)
      simp only [hcons, List.head?_cons, List.tail_cons]
      refine ⟨fun hquiet => ?_, fun htripped => ?_⟩
      · have hhigh := hahead.running hquiet
        rw [hcons] at hhigh
        rw [List.append_assoc]
        exact hhigh
      · -- Behind the mark nothing is left.
        obtain ⟨hs, hnil | ⟨hmark, -⟩⟩ := hahead.broken htripped
        · exact nomatch hcons.symm.trans hnil
        · exact ⟨hs, .inl (List.cons.inj (hcons.symm.trans hmark)).2⟩

theorem Accounts.skipTo (h : Accounts seq passed) (id : LineId) :
    Accounts (seq.skipTo id) (passed ++ seq.passedBy (.skipTo id)) := by
  have hsame : (seq.skipTo id).source.cursor.tripped = seq.source.cursor.tripped :=
    seq.source.cursor.passing_tripped id
  refine ⟨fun hquiet => ?_, fun htripped => ?_⟩
  · -- What the skip drops from the buffer counts as passed.
    rw [List.append_assoc, show seq.passedBy (.skipTo id) ++ (seq.skipTo id).buffer = seq.buffer from
      List.takeWhile_append_dropWhile]
    exact h.running (hsame.symm.trans hquiet)
  · rw [hsame] at htripped
    obtain ⟨hs, hbuffer⟩ := h.broken htripped
    refine ⟨hs, ?_⟩
    change seq.buffer.dropWhile _ = [] ∨ seq.buffer.dropWhile _ = [seq.markerLine] ∧ _
    rw [passedBy]
    rcases hbuffer with hnil | ⟨hmark, hhigh⟩
    · rw [hnil]
      exact .inl rfl
    · rw [hmark]
      by_cases hle : seq.markerLine.id ≤ id
      · rw [List.dropWhile_cons_of_pos (by simpa using hle)]
        exact .inl rfl
      · rw [List.dropWhile_cons_of_neg (by simpa using hle),
          List.takeWhile_cons_of_neg (by simpa using hle), List.append_nil]
        exact .inr ⟨rfl, hhigh⟩

theorem Accounts.call (h : Accounts seq passed) (c : SequenceCall) :
    Accounts (seq.call c).2 (passed ++ seq.passedBy c) := by
  cases c with
  | hasNext =>
    rw [passedBy, List.append_nil]
    exact h.hasNext
  | nextLine => exact h.nextLine
  | skipTo id => exact h.skipTo id

theorem Accounts.callAll (h : Accounts seq passed) (calls : List SequenceCall) :
    Accounts (callAll LineSequence.call seq calls).2 (passed ++ seq.passedByAll calls) := by
  induction calls generalizing seq passed with
  | nil =>
    rw [passedByAll, List.append_nil]
    exact h
  | cons c calls ih =>
    rw [passedByAll, ← List.append_assoc]
    exact ih (h.call c)

theorem mem_passedByAll {line : LogLine} {calls : List SequenceCall}
    (h : .line (.ok (some line)) ∈ (RunLog.callAll LineSequence.call seq calls).1) :
    line ∈ seq.passedByAll calls := by
  induction calls generalizing seq with
  | nil => exact nomatch h
  | cons c calls ih =>
    rw [callAll_cons, List.mem_cons] at h
    rw [passedByAll, List.mem_append]
    refine h.imp (fun hfirst => ?_) ih
    cases c with
    | hasNext => cases hfirst
    | nextLine =>
      have hline : seq.nextLine.1 = .ok (some line) := (SequenceAnswer.line.inj hfirst).symm
      rw [passedBy, hline]
      exact List.mem_singleton_self line
    | skipTo id => cases hfirst

/-- A line given by a sequence that a bound has ended is the mark. -/
theorem Accounts.eq_mark (h : Accounts seq passed) {line : LogLine}
    (hline : seq.nextLine.1 = .ok (some line))
    (hcut : seq.nextLine.2.source.cursor.tripped ≠ none) :
    line = ⟨(passed.map LogLine.id).max?.getD .least, markerText⟩ := by
  rw [nextLine_source] at hcut
  obtain ⟨-, hbuffer⟩ := h.hasNext.broken hcut
  rw [nextLine_eq] at hline
  cases hnext : seq.hasNext.1 with
  | error e =>
    rw [hnext] at hline
    exact nomatch hline
  | ok more =>
    cases more with
    | false =>
      rw [hnext] at hline
      exact nomatch hline
    | true =>
      obtain ⟨hmark, hhigh⟩ := hbuffer.resolve_left (buffer_ne_nil_of_hasNext hnext)
      rw [hnext, hmark] at hline
      obtain rfl : seq.hasNext.2.markerLine = line := by simpa using hline
      rw [markerLine, hhigh]

theorem le_max?_ids_iff (lines : List LogLine) (id : LineId) :
    id ≤ (lines.map LogLine.id).max?.getD .least ↔ id = .least ∨ ∃ line ∈ lines, id ≤ line.id := by
  induction lines with
  | nil =>
    refine ⟨fun h => .inl ?_, fun h => ?_⟩
    · exact LineId.toNat_inj.mp (Nat.le_zero.mp (LineId.le_iff.mp h))
    · obtain rfl := h.resolve_right (by simp)
      exact LineId.le_refl _
  | cons line lines ih =>
    simp only [List.mem_cons, exists_eq_or_imp]
    rw [List.map_cons, List.max?_cons, Option.getD_some, or_left_comm, ← ih]
    cases (lines.map LogLine.id).max? with
    | none =>
      have hleast : LineId.least ≤ line.id := LineId.le_iff.mpr (Nat.zero_le _)
      exact (or_iff_left_of_imp fun h => LineId.le_trans h hleast).symm
    | some high =>
      change id ≤ max line.id high ↔ id ≤ line.id ∨ id ≤ high
      rw [LineId.le_iff, LineId.le_iff, LineId.le_iff, LineId.toNat_max]
      omega

/-- The id of the mark, over any backend, within any bounds and after any calls. It is the highest id
among the lines that were given or dropped by then, and so not less than the id of a line given before.
An id lies up to it exactly if one of those lines does not lie below that id, which needs not be so for
an id to which the sequence was skipped: a skip beyond the lines at hand leaves no trace in the mark. -/
theorem mark_id_of_calls (backend : φ) (start : LineId) (limits : Limits) (marker : Bool)
    (calls : List SequenceCall) (mark : LogLine) :
    let first : LineSequence (PagedSource φ) := { source := .start backend start limits, marker }
    let seq := (callAll call first calls).2
    let passed := first.passedByAll calls
    seq.nextLine.1 = .ok (some mark) → seq.nextLine.2.source.cursor.tripped ≠ none →
    mark = ⟨(passed.map LogLine.id).max?.getD .least, markerText⟩ ∧
    (∀ line, .line (.ok (some line)) ∈ (callAll call first calls).1 → line.id ≤ mark.id) ∧
    ∀ id, id ≤ mark.id ↔ id = .least ∨ ∃ line ∈ passed, id ≤ line.id := by
  intro first seq passed hline hcut
  have haccounts : Accounts seq passed := (accounts_start backend start limits marker).callAll calls
  obtain rfl := haccounts.eq_mark hline hcut
  refine ⟨rfl, fun line hmem => ?_, le_max?_ids_iff passed⟩
  rw [le_max?_ids_iff]
  exact .inr ⟨line, mem_passedByAll hmem, LineId.le_refl _⟩

section ThreeLines

open ByteStream (cutShort ofLines)

/-- The sequence behind the only line that its bound allows. -/
def behindCut : LineSequence (PagedSource StoredLog) where
  source := ⟨⟨threeLines⟩, ⟨2, 5, 1⟩, { windowStart := ⟨21⟩, linesEmitted := 1, queriesIssued := 1 }⟩
  marker := true
  highWater := some ⟨10⟩

theorem nextLine_cutShort : cutShort.nextLine = (.ok (some ⟨⟨10⟩, "one"⟩), behindCut) := by
  have hpage : Cursor.arrange [⟨⟨10⟩, "one"⟩, ⟨⟨20⟩, "two"⟩] = [⟨⟨10⟩, "one"⟩, ⟨⟨20⟩, "two"⟩] :=
    Cursor.arrange_of_ordered (by unfold Ordered; decide)
  have hselect : StoredLog.select ⟨threeLines⟩ .least 2 = [⟨⟨10⟩, "one"⟩, ⟨⟨20⟩, "two"⟩] := by decide
  have hfetch : PageSource.fetchNext cutShort.source =
      (.ok (.page ⟨[⟨⟨10⟩, "one"⟩], 200⟩), behindCut.source) := by
    change (PagedSource.start (⟨threeLines⟩ : StoredLog) .least ⟨2, 5, 1⟩).fetchNext = _
    simp only [PagedSource.fetchNext, PagedSource.start, PageFetcher.fetch, hselect,
      Cursor.emitted, Cursor.absorb, Cursor.behind, hpage]
    rfl
  rw [nextLine_eq, hasNext_of_opened rfl rfl, hfetch]
  simp only []
  rw [hasNext_of_buffer_ne_nil (by simp)]
  rfl

theorem nextLine_behindCut : behindCut.nextLine.1 = .ok (some ⟨⟨10⟩, markerText⟩) ∧
    behindCut.nextLine.2.source.cursor.tripped = some .maxLines := by
  rw [nextLine_eq, hasNext_of_opened rfl rfl]
  exact ⟨rfl, rfl⟩

theorem mark_id_of_calls_threeLines :
    let seq := (callAll call cutShort [.nextLine]).2
    seq.nextLine.1 = .ok (some ⟨⟨10⟩, markerText⟩) ∧
    ∀ id : LineId, id ≤ ⟨10⟩ ↔ id = .least ∨ ∃ line ∈ [(⟨⟨10⟩, "one"⟩ : LogLine)], id ≤ line.id := by
  intro seq
  have hseq : seq = behindCut := congrArg Prod.snd nextLine_cutShort
  have hpassed : cutShort.passedByAll [.nextLine] = [⟨⟨10⟩, "one"⟩] := by
    rw [passedByAll, passedBy, nextLine_cutShort]
    rfl
  obtain ⟨hline, htripped⟩ := nextLine_behindCut
  rw [← hseq] at hline htripped
  obtain ⟨-, -, hids⟩ := mark_id_of_calls (⟨threeLines⟩ : StoredLog) .least ⟨2, 5, 1⟩ true [.nextLine]
    ⟨⟨10⟩, markerText⟩ hline fun hquiet => nomatch htripped.symm.trans hquiet
  change ∀ id, id ≤ ⟨10⟩ ↔ id = .least ∨ ∃ line ∈ cutShort.passedByAll [.nextLine], id ≤ line.id at hids
  rw [hpassed] at hids
  exact ⟨hline, hids⟩

/-- A sequence that gave the line of id 10 and was skipped to id 20 marks the cut with id 10. A reader
behind the first line that skips to an offset recorded behind the second one has 20 for its last line,
and behind the mark 10 again. -/
theorem mark_before_skip :
    let seq := (callAll call cutShort [.nextLine, .skipTo ⟨20⟩]).2
    let cursors : CursorView := ⟨freshHold.2.record freshHold.1 8 ⟨some ⟨20⟩, 0⟩, some freshHold.1⟩
    let skipped := (((ofLines cutShort).read 4).2.skip cursors 4).2
    (seq.nextLine.1 = .ok (some ⟨⟨10⟩, markerText⟩) ∧
      seq.nextLine.2.source.cursor.tripped = some .maxLines ∧ ¬ (⟨20⟩ : LineId) ≤ ⟨10⟩) ∧
    skipped.lastLineId = some ⟨20⟩ ∧ (skipped.read 4).2.lastLineId = some ⟨10⟩ := by
  intro seq cursors skipped
  -- The source stands behind the second line already, so skipping to it changes nothing.
  have hsame : behindCut.skipTo ⟨20⟩ = behindCut := rfl
  have hseq : seq = behindCut := by
    change cutShort.nextLine.2.skipTo ⟨20⟩ = _
    rw [nextLine_cutShort, hsame]
  have hread : ((ofLines cutShort).read 4).2 =
      ⟨behindCut, [], 4, 4, some ⟨10⟩, some ⟨10⟩, 0⟩ := by
    rw [ByteStream.read_of_idle rfl (by decide) rfl,
      show (ofLines cutShort).lines.nextLine = _ from nextLine_cutShort]
    rfl
  have hskip : skipped = ⟨behindCut, [], 0, 8, some ⟨20⟩, some ⟨20⟩, 0⟩ := by
    change (((ofLines cutShort).read 4).2.skip cursors 4).2 = _
    rw [hread, ByteStream.skip_of_open rfl]
    rfl
  refine ⟨⟨?_, ?_, by decide⟩, ?_, ?_⟩
  · rw [hseq]
    exact nextLine_behindCut.1
  · rw [hseq]
    exact nextLine_behindCut.2
  · rw [hskip]
  · rw [hskip, ByteStream.read_of_idle rfl (by decide) rfl, nextLine_behindCut.1]
    rfl

end ThreeLines

end LineSequence

end RunLog
