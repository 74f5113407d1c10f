import RunLog.Sink
import RunLog.Stream

namespace RunLog

namespace ByteStream

variable {σ : Type} [PageSource σ]

/-- What a stream may still deliver: pages, then lines at hand, then bytes of the current line. -/
def remaining (s : ByteStream σ) : Nat × Nat × Nat :=
  (s.lines.lookahead, s.lines.buffer.length, s.rest.length)

/-- Less remains where fewer pages do, or as many pages and fewer lines, or also as many lines and
fewer bytes. -/
abbrev Less : Nat × Nat × Nat → Nat × Nat × Nat → Prop :=
  Prod.Lex (· < ·) (Prod.Lex (· < ·) (· < ·))

theorem remaining_deliver_lt (s : ByteStream σ) {n : Nat} (hn : n ≠ 0) (hp : s.rest ≠ []) :
    Less (s.deliver n).2.remaining s.remaining := by
  refine .right _ (.right _ ?_)
  have := List.length_pos_iff.mpr hp
  simp only [deliver, List.length_drop]
  omega

theorem remaining_fillLine_lt (s : ByteStream σ) (ht : s.fillLine.1 = .ok true) :
    s.fillLine.2.lines.lookahead < s.lines.lookahead ∨
      s.fillLine.2.lines.lookahead = s.lines.lookahead ∧
        s.fillLine.2.lines.buffer.length < s.lines.buffer.length := by
  by_cases hb : s.lines.buffer = []
  · left
    have hlt := LineSequence.lookahead_hasNext_lt hb
    revert ht
    simp only [fillLine, LineSequence.nextLine]
    generalize s.lines.hasNext = r at hlt
    obtain ⟨(e | _ | _), seq⟩ := r
    · simp
    · simp
    · intro h
      cases hh : seq.buffer.head? with
      | none => simp [hh] at h
      | some line => simpa [hh, LineSequence.lookahead] using hlt rfl
  · right
    obtain ⟨line, tail, hcons⟩ := List.exists_cons_of_ne_nil hb
    simp [fillLine, LineSequence.nextLine, LineSequence.hasNext_of_buffer_ne_nil hb, hcons,
      LineSequence.lookahead]

theorem remaining_read_lt {s : ByteStream σ} {n : Nat} {byte : UInt8} {bytes : List UInt8}
    (h : (s.read n).1 = .ok (byte :: bytes)) : Less (s.read n).2.remaining s.remaining := by
  revert h
  unfold read
  split
  · simp
  · split
    · simp
    · next hn =>
      split
      · next hp =>
        intro _
        exact remaining_deliver_lt s hn (by simpa [linePending] using hp)
      · have hlt := remaining_fillLine_lt s
        generalize s.fillLine = r at hlt
        obtain ⟨(e | _ | _), t⟩ := r
        · simp
        · simp
        · intro _
          rcases hlt rfl with hlt | ⟨heq, hlt⟩
          · exact .left _ _ hlt
          · exact Prod.lex_def.mpr (.inr ⟨heq, .left _ _ hlt⟩)

def chunkSize : Nat := 8192

variable {κ : Type} [ByteSink κ]

/-- Copies the rest of the log into a sink, chunk by chunk, until the log ends or a side fails. An
interruption is no failure of either side: reads do not have it, and the sink is asked again. -/
def copy (s : ByteStream σ) (sink : κ) : Except TransferError Unit × ByteStream σ × κ :=
  let step := s.read chunkSize
  match _h : step.1 with
  | .error e => (.error e, step.2, sink)
  | .ok [] => (.ok (), step.2, sink)
  | .ok (byte :: bytes) =>
    match ByteSink.writeAll sink (byte :: bytes) with
    | (.error e, sink) => (.error e, step.2, sink)
    | (.ok (), sink) => copy step.2 sink
termination_by s.remaining
decreasing_by exact remaining_read_lt _h

end ByteStream

end RunLog
