import RunLog.Proofs.Log

namespace RunLog

/-- What pages of `p` lines keep of a log, if each starts behind the last id of the one before. -/
def kept (p : Nat) (hp : 0 < p) (lines : List LogLine) : List LogLine :=
  if lines.length ≤ p then lines
  else lines.take p ++ kept p hp (behindPage (lines.take p) (lines.drop p))
termination_by lines.length
decreasing_by
  have hle := (behindPage_sublist (lines.take p) (lines.drop p)).length_le
  rw [List.length_drop] at hle
  omega

/-- A page boundary of the log lies between two lines of one id. -/
def SplitsRun (p : Nat) (lines : List LogLine) : Prop :=
  ∃ k a b, lines[p * k + p - 1]? = some a ∧ lines[p * k + p]? = some b ∧ a.id = b.id

section Kept

variable {p : Nat} {hp : 0 < p} {lines : List LogLine}

theorem kept_of_length_le (h : lines.length ≤ p) : kept p hp lines = lines := by
  rw [kept, if_pos h]

theorem kept_of_lt (h : p < lines.length) : kept p hp lines =
    lines.take p ++ kept p hp (behindPage (lines.take p) (lines.drop p)) := by
  rw [kept, if_neg (Nat.not_le_of_lt h)]

theorem take_kept {n : Nat} (hn : n ≤ p) : (kept p hp lines).take n = lines.take n := by
  by_cases h : lines.length ≤ p
  · rw [kept_of_length_le h]
  · have hlt := Nat.lt_of_not_le h
    have hlen : (lines.take p).length = p := List.length_take_of_le (Nat.le_of_lt hlt)
    rw [kept_of_lt hlt, List.take_append_of_le_length (by omega), List.take_take,
      Nat.min_eq_left hn]

theorem drop_kept (h : p ≤ lines.length) :
    (kept p hp lines).drop p = kept p hp (behindPage (lines.take p) (lines.drop p)) := by
  rcases Nat.lt_or_eq_of_le h with hlt | heq
  · rw [kept_of_lt hlt, List.drop_left' (List.length_take_of_le h)]
  · -- Behind the only page nothing is left.
    have hnil : lines.drop p = [] := List.drop_eq_nil_of_le (Nat.le_of_eq heq.symm)
    have hnone := (behindPage_sublist (lines.take p) (lines.drop p)).length_le
    rw [hnil, List.length_nil, Nat.le_zero, List.length_eq_zero_iff] at hnone
    rw [kept_of_length_le (Nat.le_of_eq heq.symm), hnil, hnone, kept_of_length_le (Nat.zero_le p)]

theorem length_kept_lt_iff : (kept p hp lines).length < p ↔ lines.length < p := by
  by_cases h : lines.length ≤ p
  · rw [kept_of_length_le h]
  · have hlt := Nat.lt_of_not_le h
    rw [kept_of_lt hlt, List.length_append, List.length_take_of_le (Nat.le_of_lt hlt)]
    omega

theorem kept_eq_self_of_ascending (h : Ascending lines) : kept p hp lines = lines := by
  induction lines using kept.induct p hp with
  | case1 lines hle => exact kept_of_length_le hle
  | case2 lines hlt ih =>
    have hsplit := List.take_append_drop p lines
    have hrest : behindPage (lines.take p) (lines.drop p) = lines.drop p :=
      Ascending.behindPage_eq (by rwa [hsplit])
    rw [hrest] at ih
    rw [kept_of_lt (Nat.lt_of_not_le hlt), hrest, ih (h.sublist (List.drop_sublist p lines)), hsplit]

theorem kept_sublist : (kept p hp lines).Sublist lines := by
  induction lines using kept.induct p hp with
  | case1 lines hle => simp only [kept_of_length_le hle, List.Sublist.refl]
  | case2 lines hlt ih =>
    have hrest := ih.trans (behindPage_sublist (lines.take p) (lines.drop p))
    have hall := (List.Sublist.refl (lines.take p)).append hrest
    rw [List.take_append_drop] at hall
    rw [kept_of_lt (Nat.lt_of_not_le hlt)]
    exact hall

/-- A full page has a last line, behind whose id the next page starts. -/
theorem exists_last_take (hp : 0 < p) (h : p ≤ lines.length) :
    ∃ last ∈ lines.take p, lines[p - 1]? = some last ∧
      behindPage (lines.take p) (lines.drop p) = beyond last.id (lines.drop p) := by
  have hlt : p - 1 < lines.length := by omega
  have hget : lines[p - 1]? = some lines[p - 1] := List.getElem?_eq_getElem hlt
  have hlast : (lines.take p).getLast? = some lines[p - 1] := by
    rw [List.getLast?_take, if_neg (Nat.ne_of_gt hp), hget]
    rfl
  refine ⟨lines[p - 1], List.mem_of_getLast? hlast, hget, ?_⟩
  rw [behindPage, lastId, hlast, Option.map_some]

/-- Of every run some line is kept. -/
theorem exists_mem_kept (hord : Ordered lines) {line : LogLine} (h : line ∈ lines) :
    ∃ other ∈ kept p hp lines, other.id = line.id := by
  induction lines using kept.induct p hp with
  | case1 lines hle =>
    rw [kept_of_length_le hle]
    exact ⟨line, h, rfl⟩
  | case2 lines hlt ih =>
    have hlt := Nat.lt_of_not_le hlt
    obtain ⟨last, hmem, -, hrest⟩ := exists_last_take hp (Nat.le_of_lt hlt)
    have hsub := (behindPage_sublist (lines.take p) (lines.drop p)).trans (List.drop_sublist p lines)
    have ih := ih (hord.sublist hsub)
    rw [kept_of_lt hlt]
    rw [← List.take_append_drop p lines] at h hord
    rcases List.mem_append.mp h with hpage | hother
    · exact ⟨line, List.mem_append_left _ hpage, rfl⟩
    · -- A line behind the page is left for later, unless it shares the last id of the page.
      have hle := (List.pairwise_append.mp hord).2.2 last hmem line hother
      rcases LineId.lt_or_eq_of_le hle with hlater | hsame
      · have hin : line ∈ behindPage (lines.take p) (lines.drop p) := by
          rw [hrest]
          exact List.mem_filter.mpr ⟨hother, decide_eq_true hlater⟩
        obtain ⟨other, hkept, hid⟩ := ih hin
        exact ⟨other, List.mem_append_right _ hkept, hid⟩
      · exact ⟨last, List.mem_append_left _ hmem, hsame⟩

/-- The first boundary is that behind the first page; the others are those of the rest. -/
theorem splitsRun_iff (hp : 0 < p) : SplitsRun p lines ↔
    (∃ a b, lines[p - 1]? = some a ∧ lines[p]? = some b ∧ a.id = b.id) ∨
      SplitsRun p (lines.drop p) := by
  have hlast : ∀ k, p + (p * k + p - 1) = p * (k + 1) + p - 1 := by
    intro k
    rw [Nat.mul_succ]
    omega
  have hnext : ∀ k, p + (p * k + p) = p * (k + 1) + p := by
    intro k
    rw [Nat.mul_succ]
    omega
  constructor
  · rintro ⟨k, a, b, ha, hb, hid⟩
    cases k with
    | zero =>
      rw [Nat.mul_zero, Nat.zero_add] at ha hb
      exact .inl ⟨a, b, ha, hb, hid⟩
    | succ k =>
      refine .inr ⟨k, a, b, ?_, ?_, hid⟩
      · rw [List.getElem?_drop, hlast]
        exact ha
      · rw [List.getElem?_drop, hnext]
        exact hb
  · rintro (⟨a, b, ha, hb, hid⟩ | ⟨k, a, b, ha, hb, hid⟩)
    · refine ⟨0, a, b, ?_, ?_, hid⟩
      · rw [Nat.mul_zero, Nat.zero_add]
        exact ha
      · rw [Nat.mul_zero, Nat.zero_add]
        exact hb
    · rw [List.getElem?_drop, hlast] at ha
      rw [List.getElem?_drop, hnext] at hb
      exact ⟨k + 1, a, b, ha, hb, hid⟩

/-- A page boundary within a run costs lines, and no other does. -/
theorem kept_eq_self_iff (hord : Ordered lines) :
    kept p hp lines = lines ↔ ¬ SplitsRun p lines := by
  induction lines using kept.induct p hp with
  | case1 lines hle =>
    refine iff_of_true (kept_of_length_le hle) ?_
    rintro ⟨k, a, b, -, hb, -⟩
    obtain ⟨hlt, -⟩ := List.getElem?_eq_some_iff.mp hb
    omega
  | case2 lines hlt ih =>
    have hlt := Nat.lt_of_not_le hlt
    obtain ⟨last, hmem, hlast, hrest⟩ := exists_last_take hp (Nat.le_of_lt hlt)
    have hfirst : lines[p]? = some lines[p] := List.getElem?_eq_getElem hlt
    have hdrop : lines.drop p = lines[p] :: lines.drop (p + 1) := List.drop_eq_getElem_cons hlt
    have hsplit := List.take_append_drop p lines
    have hcancel : kept p hp lines = lines ↔
        kept p hp (behindPage (lines.take p) (lines.drop p)) = lines.drop p := by
      rw [kept_of_lt hlt]
      refine ⟨fun h => List.append_cancel_left (h.trans hsplit.symm), fun h => ?_⟩
      rw [h, hsplit]
    have hord' := hord
    rw [← hsplit] at hord'
    obtain ⟨-, hother, hacross⟩ := List.pairwise_append.mp hord'
    have hle : last.id ≤ lines[p].id := hacross last hmem lines[p] (hdrop ▸ List.mem_cons_self)
    rw [hcancel, splitsRun_iff hp]
    rcases LineId.lt_or_eq_of_le hle with hlater | hsame
    · -- The page ends with its run, so that the rest is cut as a log of its own.
      have hall : behindPage (lines.take p) (lines.drop p) = lines.drop p := by
        rw [hrest, hdrop]
        exact Ordered.beyond_eq_self (hdrop ▸ hother) hlater
      have hnot : ¬ ∃ a b, lines[p - 1]? = some a ∧ lines[p]? = some b ∧ a.id = b.id := by
        rintro ⟨a, b, ha, hb, hid⟩
        obtain rfl := Option.some.inj (hlast.symm.trans ha)
        obtain rfl := Option.some.inj (hfirst.symm.trans hb)
        exact LineId.ne_of_lt hlater hid
      rw [hall] at ih ⊢
      rw [ih hother, or_iff_right hnot]
    · -- The first line behind the page shares its last id, and never comes.
      refine iff_of_false ?_ (not_not_intro (.inl ⟨last, lines[p], hlast, hfirst, hsame⟩))
      intro heq
      have hin : lines[p] ∈ kept p hp (behindPage (lines.take p) (lines.drop p)) := by
        rw [heq, hdrop]
        exact List.mem_cons_self
      rw [hrest] at hin
      have hlater : last.id < lines[p].id :=
        of_decide_eq_true (List.mem_filter.mp (kept_sublist.subset hin)).2
      exact LineId.ne_of_lt hlater hsame

end Kept

end RunLog
