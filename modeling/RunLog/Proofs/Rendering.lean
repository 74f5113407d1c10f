import RunLog.Proofs.Reading
import RunLog.Retrieval
import RunLog.Sequence.Drain
import RunLog.Source.Drain

namespace RunLog

namespace PageSource

variable {σ : Type} [PageSource σ] {s : σ}

theorem drain_of_page {page : Page} (h : (fetchNext s).1 = .ok (.page page)) :
    drain s = (page :: (drain (fetchNext s).2).1, (drain (fetchNext s).2).2) := by
  rw [drain]
  split
  · next page' h' =>
    obtain rfl : page = page' := by simpa using h.symm.trans h'
    rfl
  · next hne => exact absurd h (hne page)

theorem drain_of_end (h : ∀ page, (fetchNext s).1 ≠ .ok (.page page)) :
    drain s = ([], fetchNext s) := by
  rw [drain]
  split
  · next page h' => exact absurd h' (h page)
  · rfl

end PageSource

namespace LineSequence

variable {σ : Type} [PageSource σ] {seq : LineSequence σ}

theorem nextItem_eq (ho : seq.isClosed = false) :
    seq.nextItem = match seq.nextLine.1 with
      | .error e => (some (.error e), seq.nextLine.2)
      | .ok none => (none, seq.nextLine.2)
      | .ok (some line) => (some (.ok line), seq.nextLine.2) := by
  unfold nextItem
  rw [if_neg (by simp [ho])]
  generalize seq.nextLine = r
  obtain ⟨_ | _ | _, t⟩ := r <;> rfl

theorem nextItem_snd (ho : seq.isClosed = false) : seq.nextItem.2 = seq.nextLine.2 := by
  rw [nextItem_eq ho]
  split <;> rfl

theorem drain_eq (seq : LineSequence σ) :
    seq.drain = match seq.nextItem.1 with
      | none => ([], [], seq.nextItem.2)
      | some (.ok line) => (line :: seq.nextItem.2.drain.1, seq.nextItem.2.drain.2)
      | some (.error e) =>
        (seq.nextItem.2.drain.1, e :: seq.nextItem.2.drain.2.1, seq.nextItem.2.drain.2.2) := by
  rw [drain]
  split <;> next h => simp only [h]

theorem drain_of_line {line : LogLine} (ho : seq.isClosed = false)
    (h : seq.nextLine.1 = .ok (some line)) :
    seq.drain = (line :: seq.nextLine.2.drain.1, seq.nextLine.2.drain.2) := by
  rw [drain_eq, nextItem_eq ho, h]

theorem drain_of_error {e : RetrievalError} (ho : seq.isClosed = false)
    (h : seq.nextLine.1 = .error e) :
    seq.drain = (seq.nextLine.2.drain.1, e :: seq.nextLine.2.drain.2.1,
      seq.nextLine.2.drain.2.2) := by
  rw [drain_eq, nextItem_eq ho, h]

theorem drain_of_none (ho : seq.isClosed = false) (h : seq.nextLine.1 = .ok none) :
    seq.drain = ([], [], seq.nextLine.2) := by
  rw [drain_eq, nextItem_eq ho, h]

theorem drain_of_ended (hb : seq.buffer = []) (ho : seq.state ≠ .opened)
    (hc : seq.state ≠ .closed) : seq.drain = ([], [], seq) := by
  have hn : seq.nextLine = (.ok none, seq) := by
    rw [nextLine_eq, hasNext_of_ended hb ho hc]
  have hopen : seq.isClosed = false := by simpa [isClosed] using hc
  rw [drain_of_none hopen (congrArg Prod.fst hn), hn]

theorem drain_nextLine_of_none (h : seq.nextLine.1 = .ok none) :
    seq.nextLine.2.drain = ([], [], seq.nextLine.2) := by
  obtain ⟨hfalse, heq⟩ := hasNext_of_nextLine_none h
  obtain ⟨hb, ho, hc⟩ := ended_of_hasNext hfalse
  rw [heq]
  exact drain_of_ended hb ho hc

theorem drain_buffer (ho : seq.isClosed = false) :
    seq.drain = (seq.buffer ++ { seq with buffer := [] }.drain.1,
      { seq with buffer := [] }.drain.2) := by
  -- By induction on the buffer: the line in front comes next.
  obtain ⟨source, buffer, state, marker, high⟩ := seq
  induction buffer with
  | nil => rfl
  | cons line buffer ih =>
    have hn : nextLine ⟨source, line :: buffer, state, marker, high⟩ =
        (.ok (some line), ⟨source, buffer, state, marker, high⟩) := by
      rw [nextLine_eq, hasNext_of_buffer_ne_nil (by simp)]
      rfl
    rw [drain_of_line (by exact ho) (congrArg Prod.fst hn), hn, ih ho]
    rfl

theorem drain_congr {other : LineSequence σ} (h : seq.hasNext = other.hasNext)
    (ho : seq.isClosed = false) (ho' : other.isClosed = false) : seq.drain = other.drain := by
  have hn : seq.nextLine = other.nextLine := by rw [nextLine_eq, nextLine_eq, h]
  have hi : seq.nextItem = other.nextItem := by rw [nextItem_eq ho, nextItem_eq ho', hn]
  rw [drain_eq, drain_eq other, hi]

theorem drain_hasNext {more : Bool} (h : seq.hasNext.1 = .ok more) (ho : seq.isClosed = false) :
    seq.hasNext.2.drain = seq.drain :=
  drain_congr ((hasNext_hasNext h).trans (Prod.ext h.symm rfl)) ((isClosed_hasNext seq).trans ho) ho

/-- The line with which a sequence marks that a bound ended its source. -/
def markOf (marker : Bool) (high : Option LineId) :
    Except RetrievalError PageOutcome → List LogLine
  | .ok (.circuitBroken _) => if marker then [⟨high.getD .least, markerText⟩] else []
  | _ => []

/-- The highest id after some more lines is that of all lines. -/
theorem max?_append_ids (ids more : List LineId) :
    (ids ++ more).max? = (ids.max?.toList ++ more).max? := by
  cases ids with
  | nil => rfl
  | cons id ids =>
    rw [List.max?_cons', List.cons_append, List.max?_cons', List.foldl_append, Option.toList_some,
      List.singleton_append, List.max?_cons']

theorem raised_eq (high : Option LineId) (page : Page) :
    raised high page = (high.toList ++ page.lines.map LogLine.id).max? := by
  unfold raised Page.maxId
  cases high with
  | none =>
    rw [Option.toList_none, List.nil_append]
    cases (page.lines.map LogLine.id).max? <;> rfl
  | some high =>
    rw [Option.toList_some, List.singleton_append, List.max?_cons]
    cases (page.lines.map LogLine.id).max? <;> rfl

theorem foldl_raised (pages : List Page) (high : Option LineId) :
    pages.foldl raised high =
      (high.toList ++ (pages.flatMap Page.lines).map LogLine.id).max? := by
  induction pages generalizing high with
  | nil => cases high <;> rfl
  | cons page pages ih =>
    rw [List.foldl_cons, ih, raised_eq, ← max?_append_ids, List.flatMap_cons, List.map_append,
      List.append_assoc]

/-- What a sequence holds to be its highest id is the highest among the lines of all pages. -/
theorem foldl_raised_none (pages : List Page) :
    pages.foldl raised none = ((pages.flatMap Page.lines).map LogLine.id).max? :=
  foldl_raised pages none

/-- The bytes of the mark do not depend on the id that it carries. -/
theorem render_markOf (marker : Bool) (high high' : Option LineId)
    (outcome : Except RetrievalError PageOutcome) :
    render (markOf marker high outcome) = render (markOf marker high' outcome) := by
  unfold markOf
  split
  · cases marker <;> rfl
  · rfl

/-- The error with which a source ended. -/
def errorsOf : Except RetrievalError PageOutcome → List RetrievalError
  | .error e => [e]
  | .ok _ => []

theorem drain_of_not_opened (ho : seq.state ≠ .opened) (hc : seq.state ≠ .closed) :
    seq.drain.1 = seq.buffer ∧ seq.drain.2.1 = [] := by
  -- Behind the buffer nothing follows.
  have hopen : seq.isClosed = false := by simpa [isClosed] using hc
  have hend : { seq with buffer := [] }.drain = ([], [], { seq with buffer := [] }) :=
    drain_of_ended rfl ho hc
  rw [drain_buffer hopen, hend]
  exact ⟨List.append_nil _, rfl⟩

/-- An open sequence without lines at hand gives the lines of the pages of its source, then a mark
where a bound ended them. -/
theorem drain_opened (source : σ) (marker : Bool) (high : Option LineId) :
    (drain ⟨source, [], .opened, marker, high⟩).1 =
      (PageSource.drain source).1.flatMap Page.lines ++
        markOf marker ((PageSource.drain source).1.foldl raised high) (PageSource.drain source).2.1 ∧
    (drain ⟨source, [], .opened, marker, high⟩).2.1 = errorsOf (PageSource.drain source).2.1 := by
  have hnext := @hasNext_of_opened σ _ ⟨source, [], .opened, marker, high⟩ rfl rfl
  cases hf : (PageSource.fetchNext source).1 with
  | error e =>
    simp only [hf] at hnext
    have hend := PageSource.drain_of_end (s := source) fun page hp => nomatch hf.symm.trans hp
    have hline : nextLine ⟨source, [], .opened, marker, high⟩ =
        (.error e, ⟨(PageSource.fetchNext source).2, [], .failed, marker, high⟩) := by
      rw [nextLine_eq, hnext]
    rw [drain_of_error rfl (congrArg Prod.fst hline), hline, hend, hf,
      drain_of_ended rfl (by simp) (by simp)]
    exact ⟨rfl, rfl⟩
  | ok outcome =>
    cases outcome with
    | page page =>
      simp only [hf] at hnext
      have hlt := PageSource.fetchesLeft_lt source page hf
      -- The page is what the sequence has at hand when it goes on with the rest of the source.
      have ih := drain_opened (PageSource.fetchNext source).2 marker (raised high page)
      rw [PageSource.drain_of_page hf, drain_congr hnext rfl rfl, drain_buffer rfl]
      exact ⟨by simp [ih.1], ih.2⟩
    | exhausted =>
      simp only [hf] at hnext
      have hend := PageSource.drain_of_end (s := source) fun page hp => nomatch hf.symm.trans hp
      have hline : nextLine ⟨source, [], .opened, marker, high⟩ =
          (.ok none, ⟨(PageSource.fetchNext source).2, [], .exhausted, marker, high⟩) := by
        rw [nextLine_eq, hnext]
      rw [drain_of_none rfl (congrArg Prod.fst hline), hend, hf]
      exact ⟨rfl, rfl⟩
    | circuitBroken breaker =>
      simp only [hf] at hnext
      have hend := PageSource.drain_of_end (s := source) fun page hp => nomatch hf.symm.trans hp
      -- The mark, if there is one, was put into the buffer when the bound was found.
      have hahead := drain_hasNext (congrArg Prod.fst hnext) rfl
      rw [hnext] at hahead
      rw [← hahead, hend, hf]
      exact drain_of_not_opened nofun nofun
termination_by PageSource.fetchesLeft source

end LineSequence

namespace ByteStream

variable {σ : Type}

section Reads

variable [PageSupply σ] {s : ByteStream σ}

/-- Reads with buffers of the given sizes, up to the first error. -/
def reads (s : ByteStream σ) : List Nat → List UInt8 × Option TransferError × ByteStream σ
  | [] => ([], none, s)
  | n :: sizes =>
    match s.read n with
    | (.error e, s) => ([], some e, s)
    | (.ok data, s) =>
      let others := reads s sizes
      (data ++ others.1, others.2)

theorem reads_cons {n : Nat} {data : List UInt8} (h : (s.read n).1 = .ok data) (sizes : List Nat) :
    s.reads (n :: sizes) =
      (data ++ ((s.read n).2.reads sizes).1, ((s.read n).2.reads sizes).2) := by
  rw [reads, show s.read n = (.ok data, (s.read n).2) from Prod.ext h rfl]

/-- However a stream is read, it delivers these bytes: no read fails, what came is a first part of
them, and a read with room for a byte gets none exactly when all have come. -/
def Delivers (s : ByteStream σ) (bytes : List UInt8) : Prop :=
  ∀ sizes, (s.reads sizes).2.1 = none ∧ (s.reads sizes).1 <+: bytes ∧
    ∀ n, n ≠ 0 → (((s.reads sizes).2.2.read n).1 = .ok [] ↔ (s.reads sizes).1 = bytes)

end Reads

variable [PageSource σ] {s : ByteStream σ}

/-- What an open stream is still to deliver, where nothing of the next line is to be passed over. -/
def upcoming (s : ByteStream σ) : List UInt8 := s.rest ++ render s.lines.drain.1

/-- An open stream whose lines come without an error, and none of which is to be passed over. -/
structure Clean (s : ByteStream σ) : Prop where
  isOpen : s.lines.isClosed = false
  errors : s.lines.drain.2.1 = []
  discard : s.discard = 0

/-- A read of a clean stream takes its bytes off the front of what is upcoming. -/
theorem Clean.read (h : Clean s) (n : Nat) :
    ∃ data, (s.read n).1 = .ok data ∧ Clean (s.read n).2 ∧
      s.upcoming = data ++ (s.read n).2.upcoming ∧ (n ≠ 0 → (data = [] ↔ s.upcoming = [])) := by
  by_cases hn : n = 0
  · rw [hn, read_zero h.isOpen]
    exact ⟨[], rfl, h, rfl, fun hne => absurd rfl hne⟩
  by_cases hp : s.rest = []
  · have hopen := (s.lines.isClosed_nextLine).trans h.isOpen
    rw [read_of_idle h.isOpen hn hp]
    cases hline : s.lines.nextLine.1 with
    | error e =>
      have herr := h.errors
      rw [LineSequence.drain_of_error h.isOpen hline] at herr
      exact nomatch herr
    | ok next =>
      cases next with
      | none =>
        -- No line is left, now or later.
        have hnow := LineSequence.drain_of_none h.isOpen hline
        have hafter := LineSequence.drain_nextLine_of_none hline
        have hnil : s.upcoming = [] := by rw [upcoming, hp, hnow]; rfl
        refine ⟨[], rfl, ⟨hopen, congrArg (·.2.1) hafter, rfl⟩, ?_, fun _ => ?_⟩
        · rw [hnil, upcoming, hafter]
          rfl
        · exact ⟨fun _ => hnil, fun _ => rfl⟩
      | some line =>
        -- A line comes, and becomes the current one as a whole.
        have hnow := LineSequence.drain_of_line h.isOpen hline
        have herr := h.errors
        have hrest : (s.loaded s.lines.nextLine.2 line).rest = line.bytes := by
          rw [loaded, h.discard]
          rfl
        have hup : s.upcoming = line.bytes ++ render s.lines.nextLine.2.drain.1 := by
          rw [upcoming, hp, hnow]
          rfl
        rw [hnow] at herr
        refine ⟨_, rfl, ⟨hopen, herr, rfl⟩, ?_, fun _ => ?_⟩
        · rw [hup, ← hrest, ← deliver_rest _ n, List.append_assoc]
          rfl
        · rw [deliver_eq_nil_iff _ hn, hrest, hup, List.append_eq_nil_iff]
          exact ⟨fun hr => absurd hr line.bytes_ne_nil, And.left⟩
  · rw [read_of_pending h.isOpen hn hp]
    refine ⟨_, rfl, ⟨h.isOpen, h.errors, h.discard⟩, ?_, fun _ => ?_⟩
    · rw [upcoming, ← s.deliver_rest n, List.append_assoc]
      rfl
    · rw [s.deliver_eq_nil_iff hn, upcoming, List.append_eq_nil_iff]
      exact ⟨fun hr => absurd hr hp, And.left⟩

theorem Clean.delivers (h : Clean s) : s.Delivers s.upcoming := by
  intro sizes
  induction sizes generalizing s with
  | nil =>
    refine ⟨rfl, List.nil_prefix, fun n hn => ?_⟩
    obtain ⟨data, hread, -, -, hnil⟩ := h.read n
    change (s.read n).1 = _ ↔ [] = _
    rw [hread, eq_comm (a := []), ← hnil hn]
    exact ⟨fun h => Except.ok.inj h, congrArg Except.ok⟩
  | cons n sizes ih =>
    obtain ⟨data, hread, hclean, hup, -⟩ := h.read n
    obtain ⟨hnone, hpre, hend⟩ := ih hclean
    rw [reads_cons hread, hup]
    refine ⟨hnone, (List.prefix_append_right_inj data).mpr hpre, fun m hm => ?_⟩
    rw [List.append_cancel_left_eq]
    exact hend m hm

end ByteStream

open LineSequence in
/-- A log whose source ends without an error opens, and its stream delivers the lines of all pages
with the mark behind them. -/
theorem Opening.delivers_of_drain {σ : Type} [PageSource σ] {source : σ} (options : StreamOptions)
    (h : errorsOf (PageSource.drain source).2.1 = []) :
    ∃ log, Opening.ofSource source options = .opened log ∧
      log.stream.Delivers (render ((PageSource.drain source).1.flatMap Page.lines ++
        markOf options.marker ((PageSource.drain source).1.foldl raised none)
          (PageSource.drain source).2.1)) := by
  obtain ⟨hlines, herrors⟩ := drain_opened source options.marker none
  rw [h] at herrors
  generalize hseq : (⟨source, [], .opened, options.marker, none⟩ : LineSequence σ) = seq
    at hlines herrors
  have hopen : seq.isClosed = false := by
    rw [← hseq]
    rfl
  cases hnext : seq.hasNext.1 with
  | error e =>
    have hline : seq.nextLine.1 = .error e := by rw [nextLine_eq, hnext]
    rw [drain_of_error hopen hline] at herrors
    exact nomatch herrors
  | ok more =>
    -- Fetching the first page took nothing from the lines.
    have hsame := drain_hasNext hnext hopen
    refine ⟨.ofStream (.ofLines seq.hasNext.2) options.tailKb, ?_, ?_⟩
    · rw [ofSource, hseq, show seq.hasNext = (.ok more, seq.hasNext.2) from Prod.ext hnext rfl]
    · have hclean : (ByteStream.ofLines seq.hasNext.2).Clean :=
        ⟨(isClosed_hasNext seq).trans hopen, by rw [← herrors, ← hsame]; rfl, rfl⟩
      have hdel := hclean.delivers
      rwa [show (ByteStream.ofLines seq.hasNext.2).upcoming = render seq.hasNext.2.drain.1 from rfl,
        hsame, hlines] at hdel

end RunLog
