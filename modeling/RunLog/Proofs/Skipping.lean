import RunLog.Proofs.Room

namespace RunLog

/-- What can be asked of an open sequence of lines. -/
inductive SequenceCall where
  | hasNext
  | nextLine
  | skipTo (id : LineId)
deriving DecidableEq

/-- The answer to a call; a skip is only acknowledged. -/
inductive SequenceAnswer where
  | more (answer : Except RetrievalError Bool)
  | line (answer : Except RetrievalError (Option LogLine))
  | skipped

/-- A call to a sequence of lines. -/
def LineSequence.call {σ : Type} [PageSupply σ] (seq : LineSequence σ) :
    SequenceCall → SequenceAnswer × LineSequence σ
  | .hasNext => (.more seq.hasNext.1, seq.hasNext.2)
  | .nextLine => (.line seq.nextLine.1, seq.nextLine.2)
  | .skipTo id => (.skipped, seq.skipTo id)

/-- The same call to a list of lines, which are all at hand. -/
def callList (lines : List LogLine) : SequenceCall → SequenceAnswer × List LogLine
  | .hasNext => (.more (.ok !lines.isEmpty), lines)
  | .nextLine => (.line (.ok lines.head?), lines.tail)
  | .skipTo id => (.skipped, lines.dropWhile fun line => line.id ≤ id)

/-- Makes calls one after another and collects the answers. -/
def callAll {τ : Type} (call : τ → SequenceCall → SequenceAnswer × τ) (t : τ) :
    List SequenceCall → List SequenceAnswer × τ
  | [] => ([], t)
  | c :: calls =>
    let first := call t c
    let others := callAll call first.2 calls
    (first.1 :: others.1, others.2)

theorem callAll_cons {τ : Type} (call : τ → SequenceCall → SequenceAnswer × τ) (t : τ)
    (c : SequenceCall) (calls : List SequenceCall) :
    callAll call t (c :: calls) =
      ((call t c).1 :: (callAll call (call t c).2 calls).1,
        (callAll call (call t c).2 calls).2) := rfl

namespace LineSequence

variable {φ : Type} [PageFetcher φ]

theorem isClosed_call {σ : Type} [PageSupply σ] (seq : LineSequence σ) (c : SequenceCall) :
    (seq.call c).2.isClosed = seq.isClosed := by
  cases c with
  | hasNext => exact isClosed_hasNext seq
  | nextLine => exact isClosed_nextLine seq
  | skipTo id => rfl

theorem tripped_of_call {seq : LineSequence (PagedSource φ)} {c : SequenceCall}
    (h : (seq.call c).2.source.cursor.tripped = none) : seq.source.cursor.tripped = none := by
  cases c with
  | hasNext => exact tripped_of_hasNext h
  | nextLine =>
    rw [call, nextLine_source] at h
    exact tripped_of_hasNext h
  | skipTo id =>
    rw [← seq.source.cursor.passing_tripped id]
    exact h

theorem tripped_of_callAll {seq : LineSequence (PagedSource φ)} {calls : List SequenceCall}
    (h : (callAll call seq calls).2.source.cursor.tripped = none) :
    seq.source.cursor.tripped = none := by
  induction calls generalizing seq with
  | nil => exact h
  | cons c calls ih => exact tripped_of_call (ih h)

variable [LogBackend φ] {lines rest : List LogLine} {seq : LineSequence (PagedSource φ)}

/-- One call is answered as the list of the lines that are left answers it. -/
theorem Yields.call (h : Yields True lines seq rest) (hc : seq.isClosed = false)
    (c : SequenceCall) (hq : (seq.call c).2.source.cursor.tripped = none) :
    (seq.call c).1 = (callList rest c).1 ∧
      Yields True lines (seq.call c).2 (callList rest c).2 := by
  cases c with
  | hasNext =>
    rcases h.hasNext hc hq with ⟨hans, hy, -⟩ | ⟨-, hsure⟩
    · exact ⟨congrArg SequenceAnswer.more hans, hy⟩
    · exact absurd trivial hsure
  | nextLine =>
    rcases h.nextLine hc hq with ⟨hans, hy⟩ | ⟨-, hsure⟩
    · exact ⟨congrArg SequenceAnswer.line hans, hy⟩
    · exact absurd trivial hsure
  | skipTo id =>
    -- The lines are ascending, so dropping them from the front is what the sequence does.
    refine ⟨rfl, ?_⟩
    change Yields True lines (seq.skipTo id) (rest.dropWhile fun line => line.id ≤ id)
    rw [h.ascending.ordered.dropWhile_eq_beyond id]
    exact h.skipTo id

theorem Yields.callAll (h : Yields True lines seq rest) (hc : seq.isClosed = false)
    (calls : List SequenceCall)
    (hq : (callAll LineSequence.call seq calls).2.source.cursor.tripped = none) :
    (callAll LineSequence.call seq calls).1 = (callAll callList rest calls).1 := by
  -- By induction on the calls: after each of them the sequence yields what the list holds.
  induction calls generalizing seq rest with
  | nil => rfl
  | cons c calls ih =>
    obtain ⟨hans, hy⟩ := h.call hc c (tripped_of_callAll hq)
    have htail := ih hy ((isClosed_call seq c).trans hc) hq
    rw [callAll_cons, callAll_cons, hans, htail]

theorem roomy_callAll (h : seq.source.Roomy lines) (calls : List SequenceCall) :
    (callAll LineSequence.call seq calls).2.source.Roomy lines := by
  induction calls generalizing seq with
  | nil => exact h
  | cons c calls ih =>
    apply ih
    cases c with
    | hasNext => exact roomy_hasNext h
    | nextLine =>
      rw [LineSequence.call, nextLine_source]
      exact roomy_hasNext h
    | skipTo id => exact h.seekPast id

/-- Skipping is an optimisation only: whatever calls are made in whatever order, and wherever pages
end, a sequence over a log answers them as the list of its lines from the start on does. -/
theorem callAll_eq_callList (backend : φ) (hlog : IsLog (LogBackend.stored backend))
    (hsteady : LogBackend.Steady backend) (start : LineId) (limits : Limits)
    (hpage : 1 ≤ limits.pageSize) (marker : Bool) (calls : List SequenceCall)
    (hquiet : (callAll call { source := PagedSource.start backend start limits, marker }
      calls).2.source.cursor.tripped = none) :
    (callAll call { source := PagedSource.start backend start limits, marker } calls).1 =
      (callAll callList (fromId start (LogBackend.stored backend)) calls).1 :=
  (Yields.start hlog (fun _ => hsteady) start hpage marker).callAll rfl calls hquiet

theorem callAll_eq_callList_threeLines :
    (callAll call
      { source := PagedSource.start (⟨threeLines⟩ : StoredLog) .least ⟨2, 5, 10⟩, marker := true }
      [.nextLine, .skipTo ⟨25⟩, .hasNext, .skipTo ⟨7⟩, .nextLine, .nextLine]).1 =
    [.line (.ok (some ⟨⟨10⟩, "one"⟩)), .skipped, .more (.ok true), .skipped,
      .line (.ok (some ⟨⟨30⟩, "three"⟩)), .line (.ok none)] := by
  have hroom : PagedSource.Roomy threeLines
      (PagedSource.start (⟨threeLines⟩ : StoredLog) .least ⟨2, 5, 10⟩) :=
    PagedSource.roomy_start isLog_threeLines trivial .least (by decide) (by decide) (by decide)
  rw [callAll_eq_callList (⟨threeLines⟩ : StoredLog) isLog_threeLines trivial .least ⟨2, 5, 10⟩
    (by decide) true _ (roomy_callAll hroom _).tripped]
  rfl

end LineSequence

end RunLog
