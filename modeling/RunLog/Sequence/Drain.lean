import RunLog.Stream

namespace RunLog.LineSequence

variable {σ : Type} [PageSource σ]

/-- What a sequence may still give: pages, then lines at hand. -/
def itemsLeft (seq : LineSequence σ) : Nat × Nat := (seq.lookahead, seq.buffer.length)

/-- Less is left where fewer pages are, or as many pages and fewer lines. -/
abbrev ItemsLess : Nat × Nat → Nat × Nat → Prop := Prod.Lex (· < ·) (· < ·)

/-- An error ends what may be fetched, unless the sequence is closed. -/
theorem lookahead_hasNext_lt_of_error {seq : LineSequence σ} {e : RetrievalError}
    (ho : seq.isClosed = false) (h : seq.hasNext.1 = .error e) :
    seq.hasNext.2.lookahead < seq.lookahead := by
  revert h ho
  fun_induction hasNext seq with
  | case4 seq hb hs answer page h ih =>
    intro _ he
    have hlt : PageSource.fetchesLeft answer.2 < PageSource.fetchesLeft seq.source :=
      PageSource.fetchesLeft_lt seq.source page h
    have hle := lookahead_hasNext_le
      { seq with source := answer.2, buffer := page.lines, highWater := raised seq.highWater page }
    simp only [lookahead, hs, if_true] at hle ⊢
    omega
  | _ => simp_all [lookahead, isClosed]

theorem itemsLeft_nextItem_lt {seq : LineSequence σ} {item : Except RetrievalError LogLine}
    (h : seq.nextItem.1 = some item) : ItemsLess seq.nextItem.2.itemsLeft seq.itemsLeft := by
  revert h
  unfold nextItem
  split
  · simp
  · next ho =>
    have ho : seq.isClosed = false := by simpa using ho
    by_cases hb : seq.buffer = []
    · have hlt := lookahead_hasNext_lt hb
      have herr := fun e => lookahead_hasNext_lt_of_error (e := e) ho
      revert hlt herr
      simp only [nextLine]
      generalize seq.hasNext = r
      obtain ⟨(e | _ | _), t⟩ := r
      · intro _ herr _
        exact .left _ _ (herr e rfl)
      · simp
      · intro hlt _
        cases hh : t.buffer.head? with
        | none => simp [hh]
        | some line =>
          intro _
          refine .left _ _ ?_
          simpa [hh, lookahead] using hlt rfl
    · obtain ⟨line, tail, hcons⟩ := List.exists_cons_of_ne_nil hb
      intro _
      simp only [nextLine, hasNext_of_buffer_ne_nil hb, hcons, List.head?_cons, List.tail_cons]
      refine .right _ ?_
      simp [hcons]

/-- The items of a sequence up to its end: its lines and its errors. -/
def drain (seq : LineSequence σ) : List LogLine × List RetrievalError × LineSequence σ :=
  let step := seq.nextItem
  match _h : step.1 with
  | none => ([], [], step.2)
  | some (.ok line) =>
    let (lines, rest) := drain step.2
    (line :: lines, rest)
  | some (.error e) =>
    let (lines, errors, rest) := drain step.2
    (lines, e :: errors, rest)
termination_by seq.itemsLeft
decreasing_by all_goals exact itemsLeft_nextItem_lt _h

end RunLog.LineSequence
