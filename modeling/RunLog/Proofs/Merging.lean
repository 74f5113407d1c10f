import Mathlib.Data.List.Nodup
import RunLog.Proofs.Answers
import RunLog.Proofs.Paging

namespace RunLog

/-- The lines of a page in the order of their ids, those of one id in the order of the page. -/
structure IsStableSort (lines sorted : List LogLine) : Prop where
  perm : sorted.Perm lines
  ordered : Ordered sorted
  stable : ∀ id, sorted.filter (·.id = id) = lines.filter (·.id = id)

namespace Cursor

/-- The lines of one id are in order, so sorting leaves them as they are. -/
theorem filter_arrange (lines : List LogLine) (id : LineId) :
    (arrange lines).filter (·.id = id) = lines.filter (·.id = id) := by
  have hsame : (lines.filter (·.id = id)).Pairwise fun a b => decide (a.id ≤ b.id) = true := by
    refine List.pairwise_of_forall_mem_list fun a ha b hb => ?_
    have ha : a.id = id := by simpa using (List.mem_filter.mp ha).2
    have hb : b.id = id := by simpa using (List.mem_filter.mp hb).2
    rw [ha, hb, decide_eq_true_eq]
    exact LineId.le_refl id
  -- They stand in the sorted list in their order, and no others of this id do.
  have hsub : (lines.filter (·.id = id)).Sublist (arrange lines) :=
    List.sublist_mergeSort byId_trans byId_total hsame List.filter_sublist
  have hkept : (lines.filter (·.id = id)).Sublist ((arrange lines).filter (·.id = id)) := by
    have hboth := hsub.filter fun line => decide (line.id = id)
    simpa only [List.filter_filter, Bool.and_self] using hboth
  exact (hkept.eq_of_length ((arrange_perm lines).filter _).length_eq.symm).symm

theorem isStableSort_arrange (lines : List LogLine) : IsStableSort lines (arrange lines) :=
  ⟨arrange_perm lines, ordered_arrange lines, filter_arrange lines⟩

end Cursor

/-- Two lists in order that have the same lines of every id are equal. -/
theorem Ordered.eq_of_filter {first second : List LogLine} (h : Ordered first) (h' : Ordered second)
    (hperm : first.Perm second)
    (hstable : ∀ id, first.filter (·.id = id) = second.filter (·.id = id)) : first = second := by
  induction first generalizing second with
  | nil => exact hperm.nil_eq
  | cons a first ih =>
    cases second with
    | nil => exact nomatch hperm.length_eq
    | cons b second =>
      obtain ⟨ha, hfirst⟩ := List.pairwise_cons.mp h
      obtain ⟨hb, hsecond⟩ := List.pairwise_cons.mp h'
      -- Each of the two heads stands in the other list, so neither id is above the other.
      have hab : a.id ≤ b.id := by
        rcases List.mem_cons.mp (hperm.symm.subset List.mem_cons_self) with heq | hmem
        · exact heq ▸ LineId.le_refl _
        · exact ha b hmem
      have hba : b.id ≤ a.id := by
        rcases List.mem_cons.mp (hperm.subset List.mem_cons_self) with heq | hmem
        · exact heq ▸ LineId.le_refl _
        · exact hb a hmem
      have hid : a.id = b.id := LineId.le_antisymm hab hba
      have hheads := hstable a.id
      rw [List.filter_cons_of_pos (by simp), List.filter_cons_of_pos (by simp [hid])] at hheads
      obtain ⟨rfl, -⟩ := List.cons.inj hheads
      have htail : ∀ id, first.filter (·.id = id) = second.filter (·.id = id) := by
        intro id
        have hwhole := hstable id
        by_cases hsame : a.id = id
        · rw [List.filter_cons_of_pos (by simp [hsame]), List.filter_cons_of_pos (by simp [hsame])]
            at hwhole
          exact (List.cons.inj hwhole).2
        · rwa [List.filter_cons_of_neg (by simp [hsame]), List.filter_cons_of_neg (by simp [hsame])]
            at hwhole
      rw [ih hfirst hsecond hperm.cons_inv htail]

/-- There is one way to sort lines so that those of one id keep their order. -/
theorem isStableSort_iff {lines sorted : List LogLine} :
    IsStableSort lines sorted ↔ sorted = Cursor.arrange lines := by
  have harranged := Cursor.isStableSort_arrange lines
  constructor
  · intro h
    exact h.ordered.eq_of_filter harranged.ordered (h.perm.trans harranged.perm.symm) fun id =>
      (h.stable id).trans (harranged.stable id).symm
  · rintro rfl
    exact harranged

namespace Cursor

/-- Where no two lines have the same id, sorting forgets the order in which they came. -/
theorem arrange_of_perm {lines others : List LogLine} (h : others.Perm lines)
    (hids : (lines.map LogLine.id).Nodup) : arrange others = arrange lines := by
  have hperm : (arrange others).Perm (arrange lines) :=
    ((arrange_perm others).trans h).trans (arrange_perm lines).symm
  refine List.Perm.eq_of_pairwise (fun a b ha hb hab hba => ?_) (ordered_arrange others)
    (ordered_arrange lines) hperm
  have ha : a ∈ lines := h.subset ((arrange_perm others).subset ha)
  have hb : b ∈ lines := (arrange_perm lines).subset hb
  exact List.inj_on_of_nodup_map hids ha hb (LineId.le_antisymm hab hba)

theorem absorb_of_perm (cursor : Cursor) (limits : Limits) {lines others : List LogLine}
    (h : others.Perm lines) (hids : (lines.map LogLine.id).Nodup) :
    cursor.emitted limits others = cursor.emitted limits lines ∧
      cursor.absorb limits others = cursor.absorb limits lines := by
  have harrange := arrange_of_perm h hids
  have hemitted : cursor.emitted limits others = cursor.emitted limits lines := by
    rw [emitted, emitted, harrange]
  refine ⟨hemitted, ?_⟩
  rw [absorb, absorb, hemitted, behind, behind, harrange, h.length_eq]

end Cursor

namespace Loki

/-- What can be read in one order can be read in any other, and it is the same. -/
theorem mapM_perm {α β ε : Type} {f : α → Except ε β} {xs others : List α} (h : xs.Perm others)
    {ys : List β} (hread : xs.mapM f = .ok ys) :
    ∃ zs, others.mapM f = .ok zs ∧ zs.Perm ys := by
  induction h generalizing ys with
  | nil => exact ⟨ys, hread, .refl _⟩
  | cons x _ ih =>
    obtain ⟨y, more, hy, hmore, rfl⟩ := mapM_cons_eq_ok.mp hread
    obtain ⟨zs, hzs, hperm⟩ := ih hmore
    exact ⟨y :: zs, mapM_cons_eq_ok.mpr ⟨y, zs, hy, hzs, rfl⟩, hperm.cons y⟩
  | swap x x' xs =>
    obtain ⟨y', tail, hy', htail, rfl⟩ := mapM_cons_eq_ok.mp hread
    obtain ⟨y, more, hy, hmore, rfl⟩ := mapM_cons_eq_ok.mp htail
    have hrest := mapM_cons_eq_ok.mpr ⟨y', more, hy', hmore, rfl⟩
    exact ⟨y :: y' :: more, mapM_cons_eq_ok.mpr ⟨y, _, hy, hrest, rfl⟩, .swap y' y more⟩
  | trans _ _ ih ih' =>
    obtain ⟨zs, hzs, hperm⟩ := ih hread
    obtain ⟨last, hlast, hperm'⟩ := ih' hzs
    exact ⟨last, hlast, hperm'.trans hperm⟩

namespace QueryResponse

/-- The other answer holds the same entries, in whichever streams and whichever order. -/
structure Regroups (response other : QueryResponse) : Prop where
  status : other.status = response.status
  data : ∃ data others, response.data = some data ∧ other.data = some others ∧
    others.resultType = data.resultType ∧ others.streams.flatten.Perm data.streams.flatten

/-- An answer from whose entries lines can be taken gives the same lines when they are regrouped. -/
theorem Regroups.lines {response other : QueryResponse} (h : Regroups response other)
    {lines : List LogLine} (hlines : response.lines = .ok lines) :
    ∃ others, other.lines = .ok others ∧ others.Perm lines := by
  obtain ⟨data, others, hdata, hothers, htype, hperm⟩ := h.data
  obtain ⟨hstatus, hstreams, hread⟩ := (lines_eq_ok_iff hdata).mp hlines
  obtain ⟨found, hfound, hsame⟩ := mapM_perm hperm.symm hread
  refine ⟨found, (lines_eq_ok_iff hothers).mpr ⟨?_, ?_, hfound⟩, hsame⟩
  · rwa [IsSuccess, h.status]
  · rwa [HasStreams, htype]

/-- Two bodies of answers of which one holds the entries of the other. -/
def Regrouped (body other : String) : Prop :=
  ∃ response response', Reads body response ∧ Reads other response' ∧ response.Regroups response'

theorem Regrouped.parseBody {body other : String} (h : Regrouped body other) {lines : List LogLine}
    (hlines : QueryResponse.parseBody body = .ok lines) :
    ∃ others, QueryResponse.parseBody other = .ok others ∧ others.Perm lines := by
  obtain ⟨response, response', hreads, hreads', hregroups⟩ := h
  rw [hreads.parseBody] at hlines
  rw [hreads'.parseBody]
  exact hregroups.lines hlines

end QueryResponse

end Loki

namespace PagedSource

open Loki (QueryResponse)

variable {φ : Type} [PageFetcher φ] {s : PagedSource φ}

/-- A page that comes is given out as far as the bound on lines allows, unless it is the empty last
one. -/
theorem fetchNext_of_page (he : s.cursor.exhausted = false)
    (hb : s.cursor.breaker? s.limits = none) {page : Page}
    (hpage : (PageFetcher.fetch s.fetcher s.cursor.windowStart s.limits.pageSize).1 = .ok page) :
    let asked := { s.cursor with queriesIssued := s.cursor.queriesIssued + 1 }
    s.fetchNext.1 = .ok (if (asked.emitted s.limits page.lines).isEmpty &&
        (asked.absorb s.limits page.lines).exhausted then .exhausted
      else .page ⟨asked.emitted s.limits page.lines, page.status⟩) ∧
    s.fetchNext.2.cursor = asked.absorb s.limits page.lines := by
  have hfetched := s.fetched
  generalize s.fetchNext.1 = outcome at hfetched ⊢
  generalize s.fetchNext.2 = after at hfetched ⊢
  cases hfetched with
  | ended he' => exact nomatch he.symm.trans he'
  | broken breaker he' hb' => exact nomatch hb.symm.trans hb'
  | failed e fetcher he' hb' hf =>
    rw [hf] at hpage
    exact nomatch hpage
  | loaded page' fetcher asked he' hb' hf ha =>
    rw [hf] at hpage
    obtain rfl : page' = page := Except.ok.inj hpage
    subst ha
    exact ⟨rfl, rfl⟩

/-- What a fetched page comes to, whatever its lines and wherever the window begins. The page is sorted
in the one way in which lines of one id keep their order, and of that come as many lines as the bound
still allows; what is left out are lines of the highest ids. If no two ids are the same, an answer with
the same entries, in other streams or in another order, comes to the same page and the same cursor. -/
theorem fetchNext_merges {ψ : Type} [PageFetcher ψ] (he : s.cursor.exhausted = false)
    (hb : s.cursor.breaker? s.limits = none) {page : Page}
    (hpage : (PageFetcher.fetch s.fetcher s.cursor.windowStart s.limits.pageSize).1 = .ok page) :
    let n := min page.lines.length (s.limits.maxLines - s.cursor.linesEmitted)
    (∃ sorted, (∀ lines, IsStableSort page.lines lines ↔ lines = sorted) ∧
      (s.fetchNext.1 = .ok (.page ⟨sorted.take n, page.status⟩) ∨
        page.lines = [] ∧ s.fetchNext.1 = .ok .exhausted) ∧
      ∀ kept ∈ sorted.take n, ∀ cut ∈ sorted.drop n, kept.id ≤ cut.id) ∧
    ∀ (s' : PagedSource ψ) (body body' : String), s'.limits = s.limits → s'.cursor = s.cursor →
      QueryResponse.parseBody body = .ok page.lines → (page.lines.map LogLine.id).Nodup →
      QueryResponse.Regrouped body body' →
      (PageFetcher.fetch s'.fetcher s'.cursor.windowStart s'.limits.pageSize).1 =
        (QueryResponse.parseBody body').map (⟨·, page.status⟩) →
      s'.fetchNext.1 = s.fetchNext.1 ∧ s'.fetchNext.2.cursor = s.fetchNext.2.cursor := by
  intro n
  obtain ⟨hout, hcursor⟩ := fetchNext_of_page he hb hpage
  refine ⟨⟨Cursor.arrange page.lines, fun lines => isStableSort_iff, ?_, ?_⟩, ?_⟩
  · -- The bound still allows a line, so nothing comes of an empty page only.
    have hroom := (Cursor.breaker?_eq_none_iff.mp hb).1
    have hemitted : (Cursor.arrange page.lines).take (s.limits.maxLines - s.cursor.linesEmitted) =
        (Cursor.arrange page.lines).take n := by
      rw [List.take_eq_take_min, (Cursor.arrange_perm page.lines).length_eq, Nat.min_comm]
    rw [hout, Cursor.emitted, hemitted]
    split
    · next hend =>
      refine .inr ⟨?_, rfl⟩
      have hnone : (Cursor.arrange page.lines).take n = [] :=
        List.isEmpty_iff.mp (Bool.and_eq_true_iff.mp hend).1
      have hlength := congrArg List.length hnone
      rw [List.length_take, (Cursor.arrange_perm page.lines).length_eq, List.length_nil] at hlength
      exact List.length_eq_zero_iff.mp (by omega)
    · exact .inl rfl
  · have hord := Cursor.ordered_arrange page.lines
    rw [← List.take_append_drop n (Cursor.arrange page.lines)] at hord
    exact (List.pairwise_append.mp hord).2.2
  · intro s' body body' hlimits hsame hlines hids hregrouped hfetch
    -- The other answer is read without an error, to the same lines in another order.
    obtain ⟨others, hothers, hperm⟩ := hregrouped.parseBody hlines
    rw [hothers] at hfetch
    obtain ⟨hout', hcursor'⟩ :=
      fetchNext_of_page (hsame ▸ he) (by rw [hlimits, hsame]; exact hb) hfetch
    rw [hlimits, hsame] at hout' hcursor'
    obtain ⟨hemitted, habsorb⟩ := Cursor.absorb_of_perm
      { s.cursor with queriesIssued := s.cursor.queriesIssued + 1 } s.limits hperm hids
    rw [hout', hcursor', hout, hcursor, hemitted, habsorb]
    exact ⟨rfl, rfl⟩

section ThreeEntries

open Loki Json

/-- A stream with some entries, each a time and a text. -/
def streamOf (entries : List (Nat × String)) : Json :=
  fields [("values", array (entries.map fun entry => array [text (toString entry.1), text entry.2]))]

/-- The document of an answer with some streams. -/
def answerOf (streams : List (List (Nat × String))) : Json :=
  fields [("data", fields [("result", array (streams.map streamOf))])]

theorem written_answerOf (streams : List (List (Nat × String))) : Written (answerOf streams) := by
  have hstream : ∀ entries, Written (streamOf entries) := by
    intro entries
    refine written_field (by decide) (.array _ fun item hitem => ?_)
    obtain ⟨entry, -, rfl⟩ := List.mem_map.mp hitem
    refine .array _ ?_
    simp only [List.forall_mem_cons, List.not_mem_nil, false_imp_iff, implies_true, and_true]
    exact ⟨.text _, .text _⟩
  refine written_field (by decide) (written_field (by decide) (.array _ fun item hitem => ?_))
  obtain ⟨entries, -, rfl⟩ := List.mem_map.mp hitem
  exact hstream entries

/-- A backend that answers every request with the same document. -/
structure OneAnswer where
  document : Json

instance : PageFetcher OneAnswer where
  fetch backend _ _ :=
    ((QueryResponse.parseBody backend.document.toCompact).map (⟨·, 200⟩), backend)
  close := id

/-- Three entries out of order in two streams. -/
def scattered : Json := answerOf [[(30, "c"), (10, "a")], [(20, "b")]]

/-- The same entries in order in one stream. -/
def gathered : Json := answerOf [[(10, "a"), (20, "b"), (30, "c")]]

theorem reads_answerOf {streams : List (List (Nat × String))} {response : QueryResponse}
    (h : QueryResponse.ofJson? (answerOf streams) = some response) :
    QueryResponse.Reads (answerOf streams).toCompact response := by
  refine ⟨answerOf streams, ?_, h⟩
  rw [toCompact, String.toList_ofList, (written_answerOf streams).parse?_compact]

/-- One of the entries is older than the window, and there is room for two lines. -/
theorem fetchNext_merges_threeEntries :
    let source : PagedSource OneAnswer := .start ⟨scattered⟩ ⟨15⟩ { maxLines := 2 }
    let other : PagedSource OneAnswer := .start ⟨gathered⟩ ⟨15⟩ { maxLines := 2 }
    source.fetchNext.1 = .ok (.page ⟨[⟨⟨10⟩, "a"⟩, ⟨⟨20⟩, "b"⟩], 200⟩) ∧
      other.fetchNext.1 = source.fetchNext.1 ∧
      other.fetchNext.2.cursor = source.fetchNext.2.cursor := by
  intro source other
  let page : Page := ⟨[⟨⟨30⟩, "c"⟩, ⟨⟨10⟩, "a"⟩, ⟨⟨20⟩, "b"⟩], 200⟩
  have hscattered : QueryResponse.Reads scattered.toCompact
      ⟨none, some ⟨none, [[[text "30", text "c"], [text "10", text "a"]], [[text "20", text "b"]]]⟩⟩ :=
    reads_answerOf rfl
  have hgathered : QueryResponse.Reads gathered.toCompact
      ⟨none, some ⟨none, [[[text "10", text "a"], [text "20", text "b"], [text "30", text "c"]]]⟩⟩ :=
    reads_answerOf rfl
  have hlines : QueryResponse.parseBody scattered.toCompact = .ok page.lines :=
    hscattered.parseBody.trans rfl
  have hpage : (PageFetcher.fetch source.fetcher source.cursor.windowStart
      source.limits.pageSize).1 = .ok page := by
    change (QueryResponse.parseBody scattered.toCompact).map _ = _
    rw [hlines]
    rfl
  obtain ⟨⟨sorted, hsorted, hout, -⟩, hsame⟩ := fetchNext_merges (ψ := OneAnswer) rfl rfl hpage
  have hids : (page.lines.map LogLine.id).Nodup := by decide
  have hperm : page.lines.Perm [⟨⟨10⟩, "a"⟩, ⟨⟨20⟩, "b"⟩, ⟨⟨30⟩, "c"⟩] := by decide
  have harranged : sorted = [⟨⟨10⟩, "a"⟩, ⟨⟨20⟩, "b"⟩, ⟨⟨30⟩, "c"⟩] := by
    rw [← (hsorted _).mp (Cursor.isStableSort_arrange page.lines),
      ← Cursor.arrange_of_perm hperm.symm hids]
    refine Cursor.arrange_of_ordered ?_
    unfold Ordered
    decide
  have hregrouped : QueryResponse.Regrouped scattered.toCompact gathered.toCompact :=
    ⟨_, _, hscattered, hgathered, rfl, _, _, rfl, rfl, rfl,
      List.perm_append_singleton [text "30", text "c"]
        [[text "10", text "a"], [text "20", text "b"]]⟩
  refine ⟨?_, hsame other _ _ rfl rfl hlines hids hregrouped rfl⟩
  rcases hout with hout | ⟨hnone, -⟩
  · rw [hout, harranged]
    rfl
  · exact nomatch hnone

end ThreeEntries

end PagedSource

end RunLog
