import RunLog.Proofs.Lookahead

namespace RunLog.ByteStream

variable {σ : Type} {s : ByteStream σ} {n : Nat}

theorem deliver_rest (s : ByteStream σ) (n : Nat) :
    (s.deliver n).1 ++ (s.deliver n).2.rest = s.rest := List.take_append_drop n s.rest

theorem deliver_eq_nil_iff (s : ByteStream σ) (hn : n ≠ 0) :
    (s.deliver n).1 = [] ↔ s.rest = [] := by
  change s.rest.take n = [] ↔ _
  rw [List.take_eq_nil_iff]
  exact or_iff_right hn

theorem linePending_iff (s : ByteStream σ) : s.linePending = true ↔ s.rest ≠ [] := by
  simp [linePending]

/-- The stream once a line has become the current one. -/
def loaded (s : ByteStream σ) (lines : LineSequence σ) (line : LogLine) : ByteStream σ :=
  { s with
    lines
    rest := line.bytes.drop s.discard
    position := min s.discard line.bytes.length
    discard := 0
    currentId := some line.id }

variable [PageSupply σ]

theorem read_of_closed (hc : s.lines.isClosed = true) (n : Nat) :
    s.read n = (.error (.retrieval .closed), s) := by
  rw [read, if_pos hc]

theorem read_zero (hc : s.lines.isClosed = false) : s.read 0 = (.ok [], s) := by
  rw [read, if_neg (by simp [hc]), if_pos rfl]

theorem read_of_pending (hc : s.lines.isClosed = false) (hn : n ≠ 0) (hp : s.rest ≠ []) :
    s.read n = (.ok (s.deliver n).1, (s.deliver n).2) := by
  rw [read, if_neg (by simp [hc]), if_neg hn, if_pos ((linePending_iff s).mpr hp)]

theorem read_of_idle (hc : s.lines.isClosed = false) (hn : n ≠ 0) (hp : s.rest = []) :
    s.read n = match s.lines.nextLine.1 with
      | .error e => (.error (.retrieval e), { s with lines := s.lines.nextLine.2 })
      | .ok none =>
        (.ok [], { s with lines := s.lines.nextLine.2, rest := [], position := 0, discard := 0 })
      | .ok (some line) =>
        (.ok ((s.loaded s.lines.nextLine.2 line).deliver n).1,
          ((s.loaded s.lines.nextLine.2 line).deliver n).2) := by
  -- The next line is taken, and what came of that decides.
  have hidle : ¬ s.linePending = true := by simp [linePending, hp]
  rw [read, if_neg (by simp [hc]), if_neg hn, if_neg hidle, fillLine]
  generalize s.lines.nextLine = r
  obtain ⟨_ | _ | _, lines⟩ := r <;> rfl

theorem available_of_idle (hc : s.lines.isClosed = false) (hp : s.rest = []) :
    s.available = match s.lines.hasNext.1 with
      | .error e => (.error (.retrieval e), { s with lines := s.lines.hasNext.2 })
      | .ok more => (.ok more, { s with lines := s.lines.hasNext.2 }) := by
  have hidle : ¬ s.linePending = true := by simp [linePending, hp]
  rw [available, if_neg (by simp [hc]), if_neg hidle]
  generalize s.lines.hasNext = r
  obtain ⟨_ | _, lines⟩ := r <;> rfl

theorem available_of_pending (hc : s.lines.isClosed = false) (hp : s.rest ≠ []) :
    s.available = (.ok true, s) := by
  rw [available, if_neg (by simp [hc]), if_pos ((linePending_iff s).mpr hp)]

theorem lines_read (s : ByteStream σ) (n : Nat) :
    (s.read n).2.lines = s.lines ∨ (s.read n).2.lines = s.lines.nextLine.2 := by
  -- Only a read that has to begin a line goes to the sequence.
  cases hc : s.lines.isClosed with
  | true =>
    rw [read_of_closed hc]
    exact .inl rfl
  | false =>
    by_cases hn : n = 0
    · rw [hn, read_zero hc]
      exact .inl rfl
    by_cases hp : s.rest = []
    · right
      rw [read_of_idle hc hn hp]
      split <;> rfl
    · rw [read_of_pending hc hn hp]
      exact .inl rfl

theorem lines_available (s : ByteStream σ) :
    s.available.2.lines = s.lines ∨ s.available.2.lines = s.lines.hasNext.2 := by
  cases hc : s.lines.isClosed with
  | true =>
    rw [available, if_pos hc]
    exact .inl rfl
  | false =>
    by_cases hp : s.rest = []
    · right
      rw [available_of_idle hc hp]
      split <;> rfl
    · rw [available_of_pending hc hp]
      exact .inl rfl

theorem isClosed_read (s : ByteStream σ) (n : Nat) :
    (s.read n).2.lines.isClosed = s.lines.isClosed := by
  rcases s.lines_read n with h | h
  · rw [h]
  · rw [h, LineSequence.isClosed_nextLine]

theorem isClosed_available (s : ByteStream σ) :
    s.available.2.lines.isClosed = s.lines.isClosed := by
  rcases s.lines_available with h | h
  · rw [h]
  · rw [h, LineSequence.isClosed_hasNext]

theorem addOffset_zero (n : UInt64) : addOffset 0 n = n := by
  have hn := n.toNat_lt
  have hzero : (0 : UInt64).toNat = 0 := rfl
  rw [addOffset, if_pos (by omega), UInt64.zero_add]

theorem toNat_addOffset (a b : UInt64) :
    (addOffset a b).toNat = min (a.toNat + b.toNat) 18446744073709551615 := by
  unfold addOffset
  split
  · next h =>
    rw [UInt64.toNat_add]
    change (a.toNat + b.toNat) % 18446744073709551616 = _
    omega
  · next h =>
    change 18446744073709551615 = _
    omega

theorem skip_of_open {μ : Type} [OffsetMapper μ] (hc : s.lines.isClosed = false) (cursors : μ)
    (n : UInt64) : s.skip cursors n = (.ok n,
      match OffsetMapper.resumePoint? cursors (addOffset s.bytesRead n) with
      | some point => s.jump (addOffset s.bytesRead n) point
      | none => s) := by
  rw [skip, if_neg (by simp [hc])]
  change (match OffsetMapper.resumePoint? cursors (addOffset s.bytesRead n) with
    | some point => (Except.ok n, s.jump (addOffset s.bytesRead n) point)
    | none => (Except.ok n, s)) = _
  cases OffsetMapper.resumePoint? cursors (addOffset s.bytesRead n) <;> rfl

theorem source_skip {μ : Type} [OffsetMapper μ] (s : ByteStream σ) (cursors : μ) (n : UInt64) :
    (s.skip cursors n).2.lines.source = s.lines.source ∨
      ∃ id, (s.skip cursors n).2.lines.source = PageSupply.seekPast s.lines.source id := by
  cases hc : s.lines.isClosed with
  | true =>
    rw [skip, if_pos hc]
    exact .inl rfl
  | false =>
    rw [skip_of_open hc]
    dsimp only
    split
    · -- A point in the first line of a log has no line behind which to seek.
      next point _ =>
      cases hid : point.after with
      | none =>
        left
        simp only [jump, hid]
      | some id =>
        right
        exact ⟨id, by simp only [jump, hid]; rfl⟩
    · exact .inl rfl

theorem close_of_open {μ : Type} [OffsetMapper μ] (hc : s.lines.isClosed = false) (cursors : μ) :
    s.close cursors =
      ({ s with lines := s.lines.close, rest := [], position := 0, discard := 0 },
        match s.resumePoint? with
        | some point => OffsetMapper.record cursors s.bytesRead point
        | none => cursors) := by
  unfold close
  exact if_neg (by simp [hc])

theorem isClosed_close {μ : Type} [OffsetMapper μ] (s : ByteStream σ) (cursors : μ) :
    (s.close cursors).1.lines.isClosed = true := by
  cases hc : s.lines.isClosed with
  | true => rw [close, if_pos hc, hc]
  | false =>
    rw [close_of_open hc]
    change s.lines.close.isClosed = true
    rw [LineSequence.close, if_neg (by simp [hc])]
    rfl

variable {φ : Type} [PageFetcher φ] {t : ByteStream (PagedSource φ)}

theorem tripped_of_read (h : (t.read n).2.lines.source.cursor.tripped = none) :
    t.lines.source.cursor.tripped = none := by
  rcases t.lines_read n with hl | hl
  · rwa [hl] at h
  · rw [hl, LineSequence.nextLine_source] at h
    exact LineSequence.tripped_of_hasNext h

theorem tripped_of_available (h : t.available.2.lines.source.cursor.tripped = none) :
    t.lines.source.cursor.tripped = none := by
  rcases t.lines_available with hl | hl
  · rwa [hl] at h
  · rw [hl] at h
    exact LineSequence.tripped_of_hasNext h

theorem tripped_skip {μ : Type} [OffsetMapper μ] (t : ByteStream (PagedSource φ)) (cursors : μ)
    (n : UInt64) :
    (t.skip cursors n).2.lines.source.cursor.tripped = t.lines.source.cursor.tripped := by
  rcases t.source_skip cursors n with hs | ⟨id, hs⟩
  · rw [hs]
  · rw [hs]
    exact Cursor.passing_tripped _ id

theorem tripped_close {μ : Type} [OffsetMapper μ] (t : ByteStream (PagedSource φ)) (cursors : μ) :
    (t.close cursors).1.lines.source.cursor.tripped = t.lines.source.cursor.tripped := by
  cases hc : t.lines.isClosed with
  | true => rw [close, if_pos hc]
  | false =>
    rw [close_of_open hc]
    change t.lines.close.source.cursor.tripped = _
    rw [LineSequence.close, if_neg (by simp [hc])]
    rfl

end RunLog.ByteStream
