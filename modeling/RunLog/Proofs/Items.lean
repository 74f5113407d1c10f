import RunLog.Proofs.Calls
import RunLog.Proofs.Rendering

/-! What a sequence of lines gives over any source of pages. `Items` is the plain list of what is to
come: lines, then perhaps an error. Main statement: whatever calls are made, the sequence answers them
as that list does, and it fetches only when all lines that came before have been taken. -/

namespace RunLog

/-- What can be asked of a sequence while it is only read. -/
inductive ItemCall where
  | hasNext
  | nextLine
  | nextItem
deriving DecidableEq

/-- The call takes the next line, if there is one. -/
def ItemCall.takes : ItemCall → Bool
  | hasNext => false
  | nextLine | nextItem => true

inductive ItemAnswer where
  | more (answer : Except RetrievalError Bool)
  | line (answer : Except RetrievalError (Option LogLine))
  | item (answer : Option (Except RetrievalError LogLine))

namespace ItemAnswer

/-- The line that an answer hands over. -/
def line? : ItemAnswer → Option LogLine
  | .line (.ok next) => next
  | .item (some (.ok next)) => some next
  | _ => none

def error? : ItemAnswer → Option RetrievalError
  | .more (.error e) => some e
  | .line (.error e) => some e
  | .item (some (.error e)) => some e
  | _ => none

/-- The answer says that nothing follows, and reports no error. -/
def isEnd : ItemAnswer → Bool
  | .more (.ok false) => true
  | .line (.ok none) => true
  | .item none => true
  | _ => false

end ItemAnswer

/-- The lines that some answers hand over, in order. -/
def linesOf (answers : List ItemAnswer) : List LogLine := answers.filterMap ItemAnswer.line?

/-- The errors that some answers report. -/
def failuresOf (answers : List ItemAnswer) : List RetrievalError :=
  answers.filterMap ItemAnswer.error?

/-- Makes calls one after another and collects the answers. -/
def askAll {τ : Type} (ask : τ → ItemCall → ItemAnswer × τ) (t : τ) :
    List ItemCall → List ItemAnswer × τ
  | [] => ([], t)
  | call :: calls =>
    let first := ask t call
    let others := askAll ask first.2 calls
    (first.1 :: others.1, others.2)

theorem askAll_cons {τ : Type} (ask : τ → ItemCall → ItemAnswer × τ) (t : τ) (call : ItemCall)
    (calls : List ItemCall) :
    askAll ask t (call :: calls) =
      ((ask t call).1 :: (askAll ask (ask t call).2 calls).1,
        (askAll ask (ask t call).2 calls).2) := rfl

/-- What is to come of a sequence: its lines, and behind them its errors. -/
structure Items where
  lines : List LogLine
  errors : List RetrievalError

namespace Items

/-- Takes what comes next: a line, an error, or nothing. -/
def next : Items → Except RetrievalError (Option LogLine) × Items
  | ⟨line :: lines, errors⟩ => (.ok (some line), ⟨lines, errors⟩)
  | ⟨[], e :: errors⟩ => (.error e, ⟨[], errors⟩)
  | ⟨[], []⟩ => (.ok none, ⟨[], []⟩)

/-- Answers a call. Asking whether a line follows takes none, but it does take an error. -/
def ask (items : Items) : ItemCall → ItemAnswer × Items
  | .hasNext => match items with
    | ⟨_ :: _, _⟩ => (.more (.ok true), items)
    | ⟨[], e :: errors⟩ => (.more (.error e), ⟨[], errors⟩)
    | ⟨[], []⟩ => (.more (.ok false), items)
  | .nextLine => (.line items.next.1, items.next.2)
  | .nextItem => (.item (match items.next.1 with
    | .error e => some (.error e)
    | .ok none => none
    | .ok (some line) => some (.ok line)), items.next.2)

theorem ask_hasNext (items : Items) :
    items.ask .hasNext = match items.next.1 with
      | .error e => (.more (.error e), items.next.2)
      | .ok none => (.more (.ok false), items)
      | .ok (some _) => (.more (.ok true), items) := by
  obtain ⟨_ | ⟨line, lines⟩, _ | ⟨e, errors⟩⟩ := items <;> rfl

theorem line?_ask (items : Items) (call : ItemCall) :
    (items.ask call).1.line? = if call.takes then items.lines.head? else none := by
  obtain ⟨_ | ⟨line, lines⟩, _ | ⟨e, errors⟩⟩ := items <;> cases call <;> rfl

theorem lines_ask (items : Items) (call : ItemCall) :
    (items.ask call).2.lines = if call.takes then items.lines.tail else items.lines := by
  obtain ⟨_ | ⟨line, lines⟩, _ | ⟨e, errors⟩⟩ := items <;> cases call <;> rfl

/-- An error is reported when it is taken, and not before. -/
theorem errors_ask (items : Items) (call : ItemCall) :
    (items.ask call).1.error?.toList ++ (items.ask call).2.errors = items.errors := by
  obtain ⟨_ | ⟨line, lines⟩, _ | ⟨e, errors⟩⟩ := items <;> cases call <;> rfl

/-- A call that takes lowers what is to come, as long as there is any of it. -/
theorem length_ask_le (items : Items) (call : ItemCall) :
    (items.ask call).2.lines.length + (items.ask call).2.errors.length ≤
      items.lines.length + items.errors.length - if call.takes then 1 else 0 := by
  obtain ⟨_ | ⟨line, lines⟩, _ | ⟨e, errors⟩⟩ := items <;> cases call <;>
    simp [ask, next, ItemCall.takes] <;> omega

/-- Behind the only error, and behind an answer that nothing follows, nothing is to come. -/
theorem ask_eq_nil (items : Items) (call : ItemCall) (hone : items.errors.length ≤ 1)
    (h : (items.ask call).1.isEnd ∨ (items.ask call).1.error?.isSome) :
    (items.ask call).2 = ⟨[], []⟩ := by
  obtain ⟨_ | ⟨line, lines⟩, _ | ⟨e, _ | ⟨e', errors⟩⟩⟩ := items
  case nil.nil => cases call <;> rfl
  case nil.cons.nil => cases call <;> rfl
  case nil.cons.cons => simp at hone
  all_goals cases call <;> simp [ask, next, ItemAnswer.isEnd, ItemAnswer.error?] at h

theorem ask_nil (call : ItemCall) :
    (ask ⟨[], []⟩ call).1.isEnd = true ∧ (ask ⟨[], []⟩ call).2 = ⟨[], []⟩ := by
  cases call <;> exact ⟨rfl, rfl⟩

variable {items : Items} (calls : List ItemCall)

theorem linesOf_askAll : linesOf (askAll ask items calls).1 =
    items.lines.take (calls.countP ItemCall.takes) := by
  induction calls generalizing items with
  | nil => rfl
  | cons call calls ih =>
    have hrest : linesOf (askAll ask (items.ask call).2 calls).1 = _ := ih
    have hfirst := items.line?_ask call
    rw [askAll_cons, linesOf, List.filterMap_cons, hfirst, List.countP_cons]
    rw [linesOf, lines_ask] at hrest
    rw [hrest]
    cases call.takes with
    | false => rfl
    | true => cases items.lines <;> simp

theorem failuresOf_askAll :
    failuresOf (askAll ask items calls).1 ++ (askAll ask items calls).2.errors = items.errors := by
  induction calls generalizing items with
  | nil => rfl
  | cons call calls ih =>
    have hrest : failuresOf (askAll ask (items.ask call).2 calls).1 ++ _ = _ := ih
    rw [← items.errors_ask call, ← hrest, askAll_cons, failuresOf, List.filterMap_cons]
    cases (items.ask call).1.error? <;> rfl

theorem length_askAll_le :
    (askAll ask items calls).2.lines.length + (askAll ask items calls).2.errors.length ≤
      items.lines.length + items.errors.length - calls.countP ItemCall.takes := by
  induction calls generalizing items with
  | nil => exact Nat.le_refl _
  | cons call calls ih =>
    have hfirst := items.length_ask_le call
    have hrest : (askAll ask (items.ask call).2 calls).2.lines.length + _ ≤ _ := ih
    rw [askAll_cons, List.countP_cons]
    dsimp only
    omega

/-- As many takes as there are lines and errors bring them all. -/
theorem failuresOf_askAll_eq
    (h : items.lines.length + items.errors.length ≤ calls.countP ItemCall.takes) :
    failuresOf (askAll ask items calls).1 = items.errors := by
  have hleft : (askAll ask items calls).2.lines.length + _ ≤ _ := length_askAll_le calls
  have hnil : (askAll ask items calls).2.errors = [] := List.length_eq_zero_iff.mp (by omega)
  have hall : failuresOf (askAll ask items calls).1 ++ _ = _ := failuresOf_askAll calls
  rwa [hnil, List.append_nil] at hall

theorem askAll_nil : (askAll ask ⟨[], []⟩ calls).2 = ⟨[], []⟩ := by
  induction calls with
  | nil => rfl
  | cons call calls ih => rw [askAll_cons, (ask_nil call).2, ih]

theorem askAll_eq_nil (hone : items.errors.length ≤ 1)
    (h : ∃ answer ∈ (askAll ask items calls).1, answer.isEnd ∨ answer.error?.isSome) :
    (askAll ask items calls).2 = ⟨[], []⟩ := by
  induction calls generalizing items with
  | nil => simp [askAll] at h
  | cons call calls ih =>
    rw [askAll_cons] at h ⊢
    obtain ⟨answer, hmem, hover⟩ := h
    rcases List.mem_cons.mp hmem with rfl | hmem
    · rw [items.ask_eq_nil call hone hover]
      exact askAll_nil calls
    · have hless : (items.ask call).2.errors.length ≤ 1 := by
        have hlength := congrArg List.length (items.errors_ask call)
        rw [List.length_append] at hlength
        omega
      exact ih hless ⟨answer, hmem, hover⟩

end Items

namespace LineSequence

variable {σ : Type} [PageSource σ] {seq : LineSequence σ}

/-- Answers a call. -/
def ask (seq : LineSequence σ) : ItemCall → ItemAnswer × LineSequence σ
  | .hasNext => (.more seq.hasNext.1, seq.hasNext.2)
  | .nextLine => (.line seq.nextLine.1, seq.nextLine.2)
  | .nextItem => (.item seq.nextItem.1, seq.nextItem.2)

def items (seq : LineSequence σ) : Items := ⟨seq.drain.1, seq.drain.2.1⟩

theorem items_nextLine (ho : seq.isClosed = false) :
    seq.nextLine.1 = seq.items.next.1 ∧ seq.nextLine.2.items = seq.items.next.2 := by
  cases hline : seq.nextLine.1 with
  | error e =>
    -- Behind an error nothing follows.
    have hfailed : seq.nextLine.2.drain = ([], [], seq.nextLine.2) := by
      cases hnext : seq.hasNext.1 with
      | error e' =>
        obtain ⟨hb, hs⟩ := failed_of_hasNext ho hnext
        rw [nextLine_eq, hnext]
        exact drain_of_ended hb (by simp [hs]) (by simp [hs])
      | ok more =>
        rw [nextLine_eq, hnext] at hline
        cases more <;> exact nomatch hline
    have hitems : seq.items = ⟨[], [e]⟩ := by
      rw [items, drain_of_error ho hline, hfailed]
    rw [hitems, items, hfailed]
    exact ⟨rfl, rfl⟩
  | ok found =>
    cases found with
    | none =>
      have hitems : seq.items = ⟨[], []⟩ := by rw [items, drain_of_none ho hline]
      rw [hitems, items, drain_nextLine_of_none hline]
      exact ⟨rfl, rfl⟩
    | some line =>
      have hitems : seq.items = ⟨line :: seq.nextLine.2.items.lines, seq.nextLine.2.items.errors⟩ := by
        rw [items, drain_of_line ho hline]
        rfl
      rw [hitems]
      exact ⟨rfl, rfl⟩

theorem items_hasNext (ho : seq.isClosed = false) :
    seq.items.ask .hasNext = (.more seq.hasNext.1, seq.hasNext.2.items) := by
  obtain ⟨hanswer, hafter⟩ := items_nextLine ho
  cases hnext : seq.hasNext.1 with
  | error e =>
    have hline : seq.nextLine = (.error e, seq.hasNext.2) := by rw [nextLine_eq, hnext]
    rw [hline] at hanswer hafter
    rw [Items.ask_hasNext, ← hanswer, hafter]
  | ok more =>
    -- Looking ahead takes nothing.
    have hsame : seq.hasNext.2.items = seq.items := by
      rw [items, drain_hasNext hnext ho]
      rfl
    rw [nextLine_eq, hnext] at hanswer
    rw [Items.ask_hasNext, ← hanswer, hsame]
    cases more with
    | false => rfl
    | true =>
      obtain ⟨line, others, hcons⟩ := List.exists_cons_of_ne_nil (buffer_ne_nil_of_hasNext hnext)
      rw [hcons]
      rfl

theorem isClosed_ask (seq : LineSequence σ) (call : ItemCall) (ho : seq.isClosed = false) :
    (seq.ask call).2.isClosed = false := by
  cases call with
  | hasNext => exact (isClosed_hasNext seq).trans ho
  | nextLine => exact (isClosed_nextLine seq).trans ho
  | nextItem => exact (congrArg isClosed (nextItem_snd ho)).trans ((isClosed_nextLine seq).trans ho)

/-- A call is answered as what is to come answers it. -/
theorem items_ask (ho : seq.isClosed = false) (call : ItemCall) :
    (seq.ask call).1 = (seq.items.ask call).1 ∧ (seq.ask call).2.items = (seq.items.ask call).2 := by
  obtain ⟨hanswer, hafter⟩ := items_nextLine ho
  cases call with
  | hasNext =>
    rw [items_hasNext ho]
    exact ⟨rfl, rfl⟩
  | nextLine => exact ⟨congrArg ItemAnswer.line hanswer, hafter⟩
  | nextItem =>
    rw [ask, Items.ask, nextItem_eq ho, ← hanswer, ← hafter]
    generalize seq.nextLine = r
    obtain ⟨_ | _ | _, after⟩ := r <;> exact ⟨rfl, rfl⟩

theorem items_askAll (ho : seq.isClosed = false) (calls : List ItemCall) :
    (askAll ask seq calls).1 = (askAll Items.ask seq.items calls).1 ∧
      (askAll ask seq calls).2.items = (askAll Items.ask seq.items calls).2 ∧
      (askAll ask seq calls).2.isClosed = false := by
  induction calls generalizing seq with
  | nil => exact ⟨rfl, rfl, ho⟩
  | cons call calls ih =>
    obtain ⟨hanswer, hafter⟩ := items_ask ho call
    obtain ⟨hanswers, hlast, hopen⟩ := ih (isClosed_ask seq call ho)
    rw [askAll_cons, askAll_cons, ← hanswer, ← hafter, ← hanswers, ← hlast]
    exact ⟨rfl, rfl, hopen⟩

end LineSequence

open PagedRun (given)

namespace PageSource

variable {σ : Type} [PageSource σ] {s : σ}

/-- What the fetches of a source give, up to the first that is no page. -/
def outcomes (s : σ) : List (Except RetrievalError PageOutcome) :=
  (drain s).1.map (fun page => .ok (.page page)) ++ [(drain s).2.1]

theorem outcomes_of_page {page : Page} (h : (fetchNext s).1 = .ok (.page page)) :
    outcomes s = .ok (.page page) :: outcomes (fetchNext s).2 := by
  rw [outcomes, drain_of_page h]
  rfl

theorem outcomes_of_end (h : ∀ page, (fetchNext s).1 ≠ .ok (.page page)) :
    outcomes s = [(fetchNext s).1] := by
  rw [outcomes, drain_of_end h]
  rfl

end PageSource

open PageSource (outcomes)

/-- A source that notes what its fetches gave, the oldest first. -/
structure WatchedSource (σ : Type) where
  inner : σ
  noted : List (Except RetrievalError PageOutcome) := []

namespace WatchedSource

variable {σ : Type} [PageSource σ]

instance : PageSource (WatchedSource σ) where
  fetchNext s :=
    let answer := PageSource.fetchNext s.inner
    (answer.1, ⟨answer.2, s.noted ++ [answer.1]⟩)
  seekPast s id := { s with inner := PageSource.seekPast s.inner id }
  close s := { s with inner := PageSource.close s.inner }
  blanksLeft s := PageSupply.blanksLeft s.inner
  blanksLeft_lt s page h hblank := PageSupply.blanksLeft_lt s.inner page h hblank
  fetchesLeft s := PageSource.fetchesLeft s.inner
  fetchesLeft_lt s page h := PageSource.fetchesLeft_lt s.inner page h

/-- Watching a source does not change what it gives. -/
theorem drain_eq (inner : σ) (noted : List (Except RetrievalError PageOutcome)) :
    (PageSource.drain (⟨inner, noted⟩ : WatchedSource σ)).1 = (PageSource.drain inner).1 ∧
      (PageSource.drain (⟨inner, noted⟩ : WatchedSource σ)).2.1 = (PageSource.drain inner).2.1 := by
  by_cases hf : ∃ page, (PageSource.fetchNext inner).1 = .ok (.page page)
  · obtain ⟨page, hf⟩ := hf
    have hlt := PageSource.fetchesLeft_lt inner page hf
    obtain ⟨hpages, hend⟩ := drain_eq (PageSource.fetchNext inner).2
      (noted ++ [(PageSource.fetchNext inner).1])
    rw [PageSource.drain_of_page hf,
      PageSource.drain_of_page (s := (⟨inner, noted⟩ : WatchedSource σ)) hf]
    exact ⟨congrArg (page :: ·) hpages, hend⟩
  · have hf : ∀ page, (PageSource.fetchNext inner).1 ≠ .ok (.page page) := fun page hp => hf ⟨page, hp⟩
    rw [PageSource.drain_of_end hf,
      PageSource.drain_of_end (s := (⟨inner, noted⟩ : WatchedSource σ)) hf]
    exact ⟨rfl, rfl⟩
termination_by PageSource.fetchesLeft inner

end WatchedSource

namespace LineSequence

variable {σ : Type} [PageSource σ] {source : σ} {seq : LineSequence (WatchedSource σ)}
  {taken : List LogLine}

/-- How far a sequence is with a source: while it is open, what it has fetched is the begin of what the
source gives, and the lines of that were taken or are at hand; once it has ended, it has fetched all
that the source gives up to its end. -/
structure Tracks (source : σ) (seq : LineSequence (WatchedSource σ)) (taken : List LogLine) : Prop where
  fetched : seq.state = .opened →
    seq.source.noted ++ outcomes seq.source.inner = outcomes source
  accounted : seq.state = .opened → taken ++ seq.buffer = seq.source.noted.flatMap given
  ended : seq.state ≠ .opened → seq.source.noted = outcomes source

/-- What was fetched on the way from one state of a sequence to another: nothing, unless all lines of
the pages before were taken, and nothing behind a page with lines. -/
structure Fetches (before after : LineSequence (WatchedSource σ)) (taken : List LogLine)
    (fetched : List (Except RetrievalError PageOutcome)) : Prop where
  noted : after.source.noted = before.source.noted ++ fetched
  taken_eq : fetched ≠ [] → taken = before.source.noted.flatMap given
  empty : ∀ outcome ∈ fetched.dropLast, given outcome = []

omit [PageSource σ] in
theorem Fetches.refl (seq : LineSequence (WatchedSource σ)) (taken : List LogLine) :
    Fetches seq seq taken [] where
  noted := (List.append_nil _).symm
  taken_eq := fun hne => absurd rfl hne
  empty := nofun

theorem Tracks.taken_eq (h : Tracks source seq taken) (hb : seq.buffer = [])
    (hs : seq.state = .opened) : taken = seq.source.noted.flatMap given := by
  rw [← h.accounted hs, hb, List.append_nil]

theorem Tracks.finish (h : Tracks source seq taken) (hb : seq.buffer = []) (hs : seq.state = .opened)
    {answer : Except RetrievalError PageOutcome}
    (hend : (PageSource.fetchNext seq.source).1 = answer) (hlast : ∀ page, answer ≠ .ok (.page page))
    {after : LineSequence (WatchedSource σ)}
    (hsource : after.source = (PageSource.fetchNext seq.source).2) (hstate : after.state ≠ .opened) :
    Tracks source after taken ∧ ∃ fetched, Fetches seq after taken fetched := by
  have hnoted : after.source.noted =
      seq.source.noted ++ [(PageSource.fetchNext seq.source.inner).1] := by
    rw [hsource]
    rfl
  refine ⟨⟨fun ho => absurd ho hstate, fun ho => absurd ho hstate, fun _ => ?_⟩, _, hnoted,
    fun _ => h.taken_eq hb hs, nofun⟩
  subst hend
  rw [hnoted, ← h.fetched hs, PageSource.outcomes_of_end (s := seq.source.inner) hlast]

/-- Looking ahead fetches only when all lines were taken, and goes on behind empty pages only. -/
theorem Tracks.hasNext (h : Tracks source seq taken) :
    Tracks source seq.hasNext.2 taken ∧ ∃ fetched, Fetches seq seq.hasNext.2 taken fetched := by
  fun_induction LineSequence.hasNext seq with
  | case4 seq hb hs answer page hpage ih =>
    have hb : seq.buffer = [] := List.isEmpty_iff.mp hb
    have hanswer : (PageSource.fetchNext seq.source.inner).1 = .ok (.page page) := hpage
    have hall := h.taken_eq hb hs
    have hnoted : answer.2.noted = seq.source.noted ++ [.ok (.page page)] :=
      congrArg (fun outcome => seq.source.noted ++ [outcome]) hanswer
    have hgiven : answer.2.noted.flatMap given = taken ++ page.lines := by
      rw [hnoted, List.flatMap_append, ← hall]
      simp [given, PagedRun.page?]
    -- The page is noted, and its lines are at hand.
    obtain ⟨htracks, fetched, hfetches⟩ := ih
      { fetched := fun _ => by
          have hwhole := h.fetched hs
          rw [PageSource.outcomes_of_page hanswer] at hwhole
          rw [hnoted, List.append_assoc]
          exact hwhole
        accounted := fun _ => hgiven.symm
        ended := fun hne => absurd hs hne }
    refine ⟨htracks, .ok (.page page) :: fetched, ?_, fun _ => hall, ?_⟩
    · rw [hfetches.noted, hnoted, List.append_assoc]
      rfl
    · intro outcome hmem
      by_cases hmore : fetched = []
      · simp [hmore] at hmem
      · -- It was fetched on, so the page had no lines.
        rw [List.dropLast_cons_of_ne_nil hmore] at hmem
        rcases List.mem_cons.mp hmem with rfl | hmem
        · have hsame := hfetches.taken_eq hmore
          rw [hgiven] at hsame
          simpa [given, PagedRun.page?] using hsame
        · exact hfetches.empty outcome hmem
  | case1 | case2 | case3 | case9 => exact ⟨h, [], .refl _ _⟩
  | case5 seq hb hs answer hend =>
    exact h.finish (List.isEmpty_iff.mp hb) hs hend (by simp) rfl (by simp)
  | case6 seq hb hs answer breaker hend ended hm =>
    exact h.finish (List.isEmpty_iff.mp hb) hs hend (by simp) rfl (by simp [ended])
  | case7 seq hb hs answer breaker hend ended hm =>
    exact h.finish (List.isEmpty_iff.mp hb) hs hend (by simp) rfl (by simp [ended])
  | case8 seq hb hs answer e hend =>
    exact h.finish (List.isEmpty_iff.mp hb) hs hend (by simp) rfl (by simp)

theorem Tracks.nextLine (h : Tracks source seq taken) :
    Tracks source seq.nextLine.2 (taken ++ (ItemAnswer.line seq.nextLine.1).line?.toList) ∧
      ∃ fetched, Fetches seq seq.nextLine.2 taken fetched := by
  obtain ⟨htracks, fetched, hfetches⟩ := h.hasNext
  have hnoted := hfetches.noted
  rw [← nextLine_source] at hnoted
  refine ⟨?_, fetched, hnoted, hfetches.taken_eq, hfetches.empty⟩
  rw [nextLine_eq]
  cases hnext : seq.hasNext.1 with
  | error e => simpa [ItemAnswer.line?] using htracks
  | ok more =>
    cases more with
    | false => simpa [ItemAnswer.line?] using htracks
    | true =>
      obtain ⟨line, others, hcons⟩ := List.exists_cons_of_ne_nil (buffer_ne_nil_of_hasNext hnext)
      refine ⟨htracks.fetched, fun ho => ?_, htracks.ended⟩
      have hall := htracks.accounted ho
      rw [hcons] at hall ⊢
      rw [← hall]
      simp [ItemAnswer.line?]

theorem Tracks.ask (h : Tracks source seq taken) (ho : seq.isClosed = false) (call : ItemCall) :
    Tracks source (seq.ask call).2 (taken ++ (seq.ask call).1.line?.toList) ∧
      ∃ fetched, Fetches seq (seq.ask call).2 taken fetched := by
  cases call with
  | hasNext =>
    change Tracks source seq.hasNext.2 (taken ++ (ItemAnswer.more seq.hasNext.1).line?.toList) ∧ _
    rw [show (ItemAnswer.more seq.hasNext.1).line? = none from rfl, Option.toList_none, List.append_nil]
    exact h.hasNext
  | nextLine => exact h.nextLine
  | nextItem =>
    have hline : (ItemAnswer.item seq.nextItem.1).line? = (ItemAnswer.line seq.nextLine.1).line? := by
      rw [nextItem_eq ho]
      generalize seq.nextLine.1 = answer
      obtain _ | _ | _ := answer <;> rfl
    change Tracks source seq.nextItem.2 (taken ++ (ItemAnswer.item seq.nextItem.1).line?.toList) ∧
      ∃ fetched, Fetches seq seq.nextItem.2 taken fetched
    rw [hline, nextItem_snd ho]
    exact h.nextLine

theorem Tracks.askAll (h : Tracks source seq taken) (ho : seq.isClosed = false)
    (calls : List ItemCall) :
    Tracks source (RunLog.askAll LineSequence.ask seq calls).2
      (taken ++ linesOf (RunLog.askAll LineSequence.ask seq calls).1) := by
  induction calls generalizing seq taken with
  | nil => simpa [RunLog.askAll, linesOf] using h
  | cons call calls ih =>
    have hrest := ih (h.ask ho call).1 (isClosed_ask seq call ho)
    rw [List.append_assoc] at hrest
    rw [askAll_cons, linesOf, List.filterMap_cons]
    rw [linesOf] at hrest
    cases hline : (seq.ask call).1.line? with
    | none => rwa [hline] at hrest
    | some line => rwa [hline] at hrest

theorem length_errorsOf_le (ending : Except RetrievalError PageOutcome) :
    (errorsOf ending).length ≤ 1 := by
  cases ending <;> simp [errorsOf]

/-- What a fresh sequence has to give: the lines of all pages with the mark behind them, and the error
with which its source ended. -/
theorem items_start (source : σ) (marker : Bool) :
    items ({ source, marker } : LineSequence σ) =
      ⟨(PageSource.drain source).1.flatMap Page.lines ++
          markOf marker (((PageSource.drain source).1.flatMap Page.lines).map LogLine.id).max?
            (PageSource.drain source).2.1,
        errorsOf (PageSource.drain source).2.1⟩ := by
  obtain ⟨hlines, herrors⟩ := drain_opened source marker none
  rw [foldl_raised_none] at hlines
  rw [items, hlines, herrors]

theorem items_watched (source : σ) (marker : Bool) :
    items ({ source := ⟨source, []⟩, marker } : LineSequence (WatchedSource σ)) =
      items ({ source, marker } : LineSequence σ) := by
  obtain ⟨hpages, hend⟩ := WatchedSource.drain_eq source []
  rw [items_start, items_start, hpages, hend]

theorem tracks_start (source : σ) (marker : Bool) :
    Tracks source ({ source := ⟨source, []⟩, marker } : LineSequence (WatchedSource σ)) [] where
  fetched := fun _ => rfl
  accounted := fun _ => rfl
  ended := fun hne => absurd rfl hne

/-- What a sequence gives over any source, whatever is asked and in whatever order. Its answers are
those of the plain list: the lines of the pages of the source in order, with the mark behind them if a
bound ended it, and then the error if one ended it. So the lines that were taken are the first of that
list, as many as there were takes, and looking ahead has no part in it. The error is reported once, by
the first call behind the lines, and behind it or an end that was reported only the end is. The source is
asked for nothing behind its end, and for a page only when all lines of the pages before were taken. -/
theorem items_of_pages (source : σ) (marker : Bool) (calls : List ItemCall) :
    let fetched := (PageSource.drain source).1.flatMap Page.lines
    let ending := (PageSource.drain source).2.1
    let lines := fetched ++ markOf marker (fetched.map LogLine.id).max? ending
    let start : LineSequence (WatchedSource σ) := { source := ⟨source, []⟩, marker }
    let run := RunLog.askAll ask start calls
    (RunLog.askAll ask ({ source, marker } : LineSequence σ) calls).1 = run.1 ∧
    run.1 = (RunLog.askAll Items.ask ⟨lines, errorsOf ending⟩ calls).1 ∧
    linesOf run.1 = lines.take (calls.countP ItemCall.takes) ∧
    linesOf run.1 = linesOf (RunLog.askAll ask start (calls.filter ItemCall.takes)).1 ∧
    failuresOf run.1 <+: errorsOf ending ∧
    (lines.length < calls.countP ItemCall.takes → failuresOf run.1 = errorsOf ending) ∧
    run.2.source.noted <+: outcomes source ∧
    ∀ call, ((∃ answer ∈ run.1, answer.isEnd ∨ answer.error?.isSome) →
        (run.2.ask call).1.isEnd = true) ∧
      ∃ came, Fetches run.2 (run.2.ask call).2 (linesOf run.1) came := by
  intro fetched ending lines start run
  have hsame : start.items = items ({ source, marker } : LineSequence σ) := items_watched source marker
  have hstart : start.items = ⟨lines, errorsOf ending⟩ := hsame.trans (items_start source marker)
  have hone : (errorsOf ending).length ≤ 1 := length_errorsOf_le ending
  have hfresh : start.isClosed = false := rfl
  have hanswers : ∀ calls, (RunLog.askAll ask start calls).1 =
      (RunLog.askAll Items.ask ⟨lines, errorsOf ending⟩ calls).1 := by
    intro calls
    rw [(items_askAll hfresh calls).1, hstart]
  obtain ⟨-, hlast, hopen⟩ := items_askAll hfresh calls
  have htracks : Tracks source run.2 (linesOf run.1) :=
    (tracks_start source marker).askAll rfl calls
  have hlines : linesOf run.1 = lines.take (calls.countP ItemCall.takes) := by
    rw [hanswers, Items.linesOf_askAll]
  have hfailures : failuresOf run.1 ++ _ = errorsOf ending :=
    hanswers calls ▸ Items.failuresOf_askAll calls
  refine ⟨?_, hanswers calls, hlines, ?_, ⟨_, hfailures⟩, ?_, ?_, ?_⟩
  · rw [(items_askAll rfl calls).1, (items_askAll hfresh calls).1, hsame]
  · rw [hlines, hanswers, Items.linesOf_askAll, List.countP_filter]
    simp
  · intro hmany
    rw [hanswers]
    exact Items.failuresOf_askAll_eq calls (by dsimp only; omega)
  · -- A sequence that is open has fetched a part, and one that is not has fetched all.
    by_cases hs : run.2.state = .opened
    · exact ⟨_, htracks.fetched hs⟩
    · exact ⟨[], by rw [List.append_nil, htracks.ended hs]⟩
  · intro call
    refine ⟨fun hover => ?_, (htracks.ask hopen call).2⟩
    -- Nothing is to come any more.
    have hnil : run.2.items = ⟨[], []⟩ := by
      rw [hlast, hstart]
      rw [hanswers] at hover
      exact Items.askAll_eq_nil calls hone hover
    rw [(items_ask hopen call).1, hnil]
    exact (Items.ask_nil call).1

end LineSequence

end RunLog
