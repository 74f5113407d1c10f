import RunLog.Proofs.Skipping
import RunLog.Proofs.Volume

/-! What looking ahead costs. `turn` is one turn of the loop that looks for a line, and `look` is the loop
as long as it takes at most so many turns. Main statement: whatever the backend answers and whatever the
bounds are, the loop ends, every turn but two is paid by a request, and all requests together are within
the bound on queries. -/

namespace RunLog

namespace PagedSource

variable {φ : Type} {s t u : PagedSource (Recorder φ)} {made more : List Exchange}

/-- From one state of a source to another the given requests are made, and each is taken from the queries
that are left. -/
structure Spends (s t : PagedSource (Recorder φ)) (made : List Exchange) : Prop where
  exchanges : t.fetcher.exchanges = s.fetcher.exchanges ++ made
  queriesLeft : t.queriesLeft + made.length = s.queriesLeft

theorem Spends.refl (s : PagedSource (Recorder φ)) : s.Spends s [] where
  exchanges := (List.append_nil _).symm
  queriesLeft := rfl

theorem Spends.trans (h : s.Spends t made) (h' : t.Spends u more) : s.Spends u (made ++ more) where
  exchanges := by rw [h'.exchanges, h.exchanges, List.append_assoc]
  queriesLeft := by
    have hmade := h.queriesLeft
    have hmore := h'.queriesLeft
    rw [List.length_append]
    omega

theorem Spends.length_le (h : s.Spends t made) : made.length ≤ s.queriesLeft := by
  rw [← h.queriesLeft]
  exact Nat.le_add_left _ _

theorem spends_seekPast (s : PagedSource (Recorder φ)) (id : LineId) : s.Spends (s.seekPast id) [] where
  exchanges := (List.append_nil _).symm
  queriesLeft := congrArg (s.limits.maxQueries - ·) (s.cursor.passing_queriesIssued id)

variable [PageFetcher φ]

/-- A query that the bounds allow is one request. -/
theorem spends_of_asked {answer : Except RetrievalError Page} {fetcher : Recorder φ} {cursor : Cursor}
    (hb : s.cursor.breaker? s.limits = none)
    (hf : PageFetcher.fetch s.fetcher s.cursor.windowStart s.limits.pageSize = (answer, fetcher))
    (hissued : cursor.queriesIssued = s.cursor.queriesIssued + 1) :
    s.Spends { s with fetcher, cursor } [⟨s.cursor.windowStart, s.limits.pageSize, answer⟩] where
  exchanges := Recorder.exchanges_of_fetch hf
  queriesLeft := by
    have hlt := Cursor.queriesIssued_lt_of_breaker?_eq_none hb
    change s.limits.maxQueries - cursor.queriesIssued + 1 = _ - s.cursor.queriesIssued
    omega

/-- A fetch makes one request at most, and a page is never had without one. -/
theorem Fetched.spends {answer : Except RetrievalError PageOutcome} (h : s.Fetched answer t) :
    ∃ made, s.Spends t made ∧ made.length ≤ 1 ∧
      ∀ page, answer = .ok (.page page) → made.length = 1 := by
  cases h with
  | ended => exact ⟨[], .refl s, Nat.zero_le _, nofun⟩
  | broken => exact ⟨[], ⟨(List.append_nil _).symm, rfl⟩, Nat.zero_le _, nofun⟩
  | failed e fetcher he hb hf => exact ⟨_, spends_of_asked hb hf rfl, Nat.le_refl _, nofun⟩
  | loaded page fetcher asked he hb hf ha =>
    have hissued : (asked.absorb s.limits page.lines).queriesIssued = s.cursor.queriesIssued + 1 := by
      rw [Cursor.absorb_queriesIssued, ha]
    exact ⟨_, spends_of_asked hb hf hissued, Nat.le_refl _, fun _ _ => rfl⟩

theorem spends_close (s : PagedSource (Recorder φ)) : s.Spends s.close [] where
  exchanges := (List.append_nil _).symm
  queriesLeft := rfl

end PagedSource

/-- What can be asked of a sequence of lines as long as it lives. -/
inductive SequenceUse where
  | call (call : SequenceCall)
  | close

namespace LineSequence

section Turns

variable {σ : Type} [PageSupply σ] {seq next t : LineSequence σ} {answer : Except RetrievalError Bool}

/-- What one turn of looking ahead comes to: an answer, or another turn. -/
inductive Turn (σ : Type) where
  | answered (answer : Except RetrievalError Bool) (seq : LineSequence σ)
  | again (seq : LineSequence σ)

/-- One turn of looking ahead. After a page, and after an end that a fetch has found, the sequence is
looked at once more. -/
def turn (seq : LineSequence σ) : Turn σ :=
  if seq.buffer.isEmpty then
    match seq.state with
    | .closed => .answered (.error .closed) seq
    | .exhausted | .failed => .answered (.ok false) seq
    | .opened =>
      let source := (PageSupply.fetchNext seq.source).2
      match (PageSupply.fetchNext seq.source).1 with
      | .ok (.page page) => .again { seq with
          source, buffer := seq.buffer ++ page.lines, highWater := raised seq.highWater page }
      | .ok .exhausted => .again { seq with source, state := .exhausted }
      | .ok (.circuitBroken _) => .again { seq with
          source, state := .exhausted
          buffer := if seq.marker then seq.buffer ++ [seq.markerLine] else seq.buffer }
      | .error e => .answered (.error e) { seq with source, state := .failed }
  else .answered (.ok true) seq

/-- Looks ahead for at most so many turns, and gives nothing if they do not suffice. -/
def look (seq : LineSequence σ) : Nat → Option (Except RetrievalError Bool × LineSequence σ)
  | 0 => none
  | turns + 1 => match seq.turn with
    | .answered answer t => some (answer, t)
    | .again next => next.look turns

/-- Takes the first line at hand, if looking ahead has found one. -/
def takeFound : Except RetrievalError Bool × LineSequence σ →
    Except RetrievalError (Option LogLine) × LineSequence σ
  | (.error e, seq) => (.error e, seq)
  | (.ok false, seq) => (.ok none, seq)
  | (.ok true, seq) => (.ok seq.buffer.head?, { seq with buffer := seq.buffer.tail })

/-- Looks for the next line for at most so many turns, and takes it. -/
def lookLine (seq : LineSequence σ) (turns : Nat) :
    Option (Except RetrievalError (Option LogLine) × LineSequence σ) :=
  (seq.look turns).map takeFound

/-- A sequence after it was used. -/
def after (seq : LineSequence σ) : SequenceUse → LineSequence σ
  | .call call => (seq.call call).2
  | .close => seq.close

def afterAll (seq : LineSequence σ) (uses : List SequenceUse) : LineSequence σ := uses.foldl after seq

theorem takeFound_hasNext (seq : LineSequence σ) : takeFound seq.hasNext = seq.nextLine :=
  rfl

theorem look_of_answered (h : seq.turn = .answered answer t) {turns : Nat} (hpos : 1 ≤ turns) :
    seq.look turns = some (answer, t) := by
  obtain ⟨turns, rfl⟩ := Nat.exists_eq_add_of_le' hpos
  rw [look, h]

theorem look_of_again (h : seq.turn = .again next) (turns : Nat) :
    seq.look (turns + 1) = next.look turns := by
  rw [look, h]

theorem turn_of_exhausted (hs : seq.state = .exhausted) :
    seq.turn = .answered (.ok !seq.buffer.isEmpty) seq := by
  unfold turn
  split
  · next hb => rw [hs, hb]; rfl
  · next hb => rw [Bool.eq_false_iff.mpr hb]; rfl

/-- Behind an end the next turn answers. -/
theorem look_of_exhausted (h : seq.turn = .again next) (hs : next.state = .exhausted) {turns : Nat}
    (hturns : 2 ≤ turns) : seq.look turns = some (.ok !next.buffer.isEmpty, next) := by
  obtain ⟨turns, rfl⟩ := Nat.exists_eq_add_of_le' hturns
  rw [look_of_again h]
  exact look_of_answered (turn_of_exhausted hs) (Nat.le_add_left 1 turns)

/-- A sequence that has to fetch before it can say whether there is a line. -/
def AtFetch (seq : LineSequence σ) : Prop := seq.buffer = [] ∧ seq.state = .opened

/-- Where nothing has to be fetched the first turn answers, and the sequence stays as it is. -/
theorem hasNext_of_not_atFetch (h : ¬ seq.AtFetch) :
    ∃ answer, seq.turn = .answered answer seq ∧ seq.hasNext = (answer, seq) := by
  rw [hasNext, turn]
  by_cases hb : seq.buffer = []
  · have ho : seq.state ≠ .opened := fun ho => h ⟨hb, ho⟩
    cases hstate : seq.state with
    | opened => exact absurd hstate ho
    | _ => simp [hb]
  · simp [hb]

/-- A turn that fetches. -/
theorem turn_of_atFetch (h : seq.AtFetch) :
    seq.turn =
      let source := (PageSupply.fetchNext seq.source).2
      match (PageSupply.fetchNext seq.source).1 with
      | .ok (.page page) => .again { seq with
          source, buffer := page.lines, highWater := raised seq.highWater page }
      | .ok .exhausted => .again { seq with source, state := .exhausted }
      | .ok (.circuitBroken _) => .again { seq with
          source, state := .exhausted, buffer := if seq.marker then [seq.markerLine] else [] }
      | .error e => .answered (.error e) { seq with source, state := .failed } := by
  obtain ⟨hb, ho⟩ := h
  simp only [turn, hb, ho, List.isEmpty_nil, if_true, List.nil_append]

/-- The sequence behind a page that was fetched. -/
def filled (seq : LineSequence σ) (page : Page) : LineSequence σ :=
  { seq with
    source := (PageSupply.fetchNext seq.source).2
    buffer := page.lines
    highWater := raised seq.highWater page }

theorem hasNext_of_page (h : seq.AtFetch) {page : Page}
    (hpage : (PageSupply.fetchNext seq.source).1 = .ok (.page page)) :
    seq.turn = .again (seq.filled page) ∧ seq.hasNext = (seq.filled page).hasNext := by
  rw [turn_of_atFetch h, hasNext_of_opened h.1 h.2, hpage]
  exact ⟨rfl, rfl⟩

/-- If no page comes, that was the only fetch, and the next turn answers at the latest. -/
theorem hasNext_of_no_page (h : seq.AtFetch)
    (hnone : ∀ page, (PageSupply.fetchNext seq.source).1 ≠ .ok (.page page)) {turns : Nat}
    (hturns : 2 ≤ turns) :
    seq.look turns = some seq.hasNext ∧
      seq.hasNext.2.source = (PageSupply.fetchNext seq.source).2 := by
  have hturn := turn_of_atFetch h
  rw [hasNext_of_opened h.1 h.2]
  cases hf : (PageSupply.fetchNext seq.source).1 with
  | error e =>
    rw [hf] at hturn
    exact ⟨look_of_answered hturn (by omega), rfl⟩
  | ok outcome =>
    rw [hf] at hturn
    cases outcome with
    | page page => exact absurd hf (hnone page)
    | exhausted =>
      have hlook := look_of_exhausted hturn rfl hturns
      refine ⟨hlook.trans ?_, rfl⟩
      rw [h.1]
      rfl
    | circuitBroken breaker =>
      have hlook := look_of_exhausted hturn rfl hturns
      refine ⟨hlook.trans ?_, rfl⟩
      cases seq.marker <;> rfl

end Turns

variable {φ : Type} [PageFetcher φ] {seq : LineSequence (PagedSource (Recorder φ))}

/-- The requests that were made for a sequence, the oldest first. -/
def requests (seq : LineSequence (PagedSource (Recorder φ))) : List Exchange :=
  seq.source.fetcher.exchanges

/-- The loop ends with the answer and the sequence that looking ahead gives, and its turns are those of its
requests and two more. -/
theorem spends_hasNext (seq : LineSequence (PagedSource (Recorder φ))) :
    ∃ made, seq.source.Spends seq.hasNext.2.source made ∧
      ∀ turns, made.length + 2 ≤ turns → seq.look turns = some seq.hasNext := by
  by_cases hfetch : seq.AtFetch
  · obtain ⟨made, hmade, -, hpaid⟩ := seq.source.fetched.spends
    by_cases hpage : ∃ page, (PageSource.fetchNext seq.source).1 = .ok (.page page)
    · obtain ⟨page, hpage⟩ := hpage
      have hlt := PageSource.fetchesLeft_lt seq.source page hpage
      obtain ⟨hturn, hnext⟩ := hasNext_of_page hfetch hpage
      -- The request for the page pays for this turn.
      have hone : made.length = 1 := hpaid page hpage
      obtain ⟨more, hmore, hlook⟩ := spends_hasNext (seq.filled page)
      rw [hnext]
      refine ⟨made ++ more, hmade.trans hmore, ?_⟩
      intro turns hturns
      rw [List.length_append, hone] at hturns
      obtain ⟨turns, rfl⟩ : ∃ fewer, turns = fewer + 1 := ⟨turns - 1, by omega⟩
      rw [look_of_again hturn]
      exact hlook turns (by omega)
    · have hnone := not_exists.mp hpage
      obtain ⟨-, hsource⟩ := hasNext_of_no_page hfetch hnone (Nat.le_refl 2)
      rw [hsource]
      refine ⟨made, hmade, ?_⟩
      intro turns hturns
      exact (hasNext_of_no_page hfetch hnone (by omega)).1
  · obtain ⟨answer, hturn, hsame⟩ := hasNext_of_not_atFetch hfetch
    rw [hsame]
    refine ⟨[], .refl seq.source, ?_⟩
    intro turns hturns
    exact look_of_answered hturn (by omega)
termination_by PageSource.fetchesLeft seq.source

/-- Where pages hold lines, looking ahead fetches once at most. -/
theorem source_hasNext (hp : 1 ≤ seq.source.limits.pageSize) :
    seq.hasNext.2.source = seq.source ∨ seq.hasNext.2.source = seq.source.fetchNext.2 := by
  by_cases hfetch : seq.AtFetch
  · right
    by_cases hpage : ∃ page, (PageSource.fetchNext seq.source).1 = .ok (.page page)
    · obtain ⟨page, hpage⟩ := hpage
      have hne : page.lines ≠ [] := seq.source.fetched.lines_ne_nil hp hpage
      rw [(hasNext_of_page hfetch hpage).2, hasNext_of_buffer_ne_nil hne]
      rfl
    · exact (hasNext_of_no_page hfetch (not_exists.mp hpage) (Nat.le_refl 2)).2
  · left
    obtain ⟨answer, -, hsame⟩ := hasNext_of_not_atFetch hfetch
    rw [hsame]

/-- What a call that looks ahead costs: its requests come behind those made before, there are no more of
them than queries are left, and one at most where pages hold lines. The loop of the call comes to its
outcome in as many turns as there are requests and two more, and then stays with it. -/
structure Costs {α : Type} (seq : LineSequence (PagedSource (Recorder φ)))
    (loop : Nat → Option (α × LineSequence (PagedSource (Recorder φ))))
    (outcome : α × LineSequence (PagedSource (Recorder φ))) (made : List Exchange) : Prop where
  requests : outcome.2.requests = seq.requests ++ made
  left : made.length ≤ seq.source.limits.maxQueries - seq.source.cursor.queriesIssued
  one : 1 ≤ seq.source.limits.pageSize → made.length ≤ 1
  ends : ∀ turns, made.length + 2 ≤ turns → loop turns = some outcome

theorem exists_costs_hasNext (seq : LineSequence (PagedSource (Recorder φ))) :
    ∃ made, seq.Costs seq.look seq.hasNext made := by
  obtain ⟨made, hmade, hlook⟩ := spends_hasNext seq
  refine ⟨made, hmade.exchanges, hmade.length_le, ?_, hlook⟩
  intro hp
  have hlength := congrArg List.length hmade.exchanges
  rw [List.length_append] at hlength
  rcases source_hasNext hp with hsame | hfetched
  · rw [hsame] at hlength
    omega
  · obtain ⟨once, honce, hle, -⟩ := seq.source.fetched.spends
    rw [hfetched, honce.exchanges, List.length_append] at hlength
    omega

/-- Taking the next line is looking ahead, and no more is fetched for it. -/
theorem Costs.nextLine {made : List Exchange} (h : seq.Costs seq.look seq.hasNext made) :
    seq.Costs seq.lookLine seq.nextLine made where
  requests := by
    rw [← h.requests]
    exact congrArg (fun source => source.fetcher.exchanges) (nextLine_source seq)
  left := h.left
  one := h.one
  ends := by
    intro turns hturns
    rw [lookLine, h.ends turns hturns, Option.map_some, takeFound_hasNext]

/-- Whatever is asked of a sequence, its requests are taken from the queries left. -/
theorem spends_after (seq : LineSequence (PagedSource (Recorder φ))) (use : SequenceUse) :
    ∃ made, seq.source.Spends (seq.after use).source made := by
  have hlook : ∃ made, seq.source.Spends seq.hasNext.2.source made := by
    obtain ⟨made, hmade, -⟩ := spends_hasNext seq
    exact ⟨made, hmade⟩
  cases use with
  | call call =>
    cases call with
    | hasNext => exact hlook
    | nextLine =>
      change ∃ made, seq.source.Spends seq.nextLine.2.source made
      rw [nextLine_source]
      exact hlook
    | skipTo id => exact ⟨[], seq.source.spends_seekPast id⟩
  | close =>
    change ∃ made, seq.source.Spends seq.close.source made
    unfold LineSequence.close
    split
    · exact ⟨[], .refl seq.source⟩
    · exact ⟨[], seq.source.spends_close⟩

theorem spends_afterAll (seq : LineSequence (PagedSource (Recorder φ))) (uses : List SequenceUse) :
    ∃ made, seq.source.Spends (seq.afterAll uses).source made := by
  induction uses generalizing seq with
  | nil => exact ⟨[], .refl seq.source⟩
  | cons use uses ih =>
    obtain ⟨made, hmade⟩ := spends_after seq use
    obtain ⟨more, hmore⟩ := ih (seq.after use)
    exact ⟨made ++ more, hmade.trans hmore⟩

/-- Looking ahead ends, and its cost is bounded, for every backend, all bounds and every state of a
sequence: the loops of both calls that look ahead come to their outcomes, at one request each where pages
hold lines and within the queries left in any case; and whatever a sequence is used for, all its requests
together are within the queries that were left, which are all that the bound allows for a source that
was not used before. -/
theorem lookahead_costs (seq : LineSequence (PagedSource (Recorder φ))) :
    (∃ made, seq.Costs seq.look seq.hasNext made) ∧
    (∃ made, seq.Costs seq.lookLine seq.nextLine made) ∧
    (∀ uses, ∃ made, (seq.afterAll uses).requests = seq.requests ++ made ∧
      made.length ≤ seq.source.limits.maxQueries - seq.source.cursor.queriesIssued) ∧
    (∀ backend windowStart limits,
      seq.source = .start { inner := backend } windowStart limits →
      ∀ uses, (seq.afterAll uses).requests.length ≤ limits.maxQueries) := by
  obtain ⟨made, hcosts⟩ := exists_costs_hasNext seq
  refine ⟨⟨made, hcosts⟩, ⟨made, hcosts.nextLine⟩, ?_, ?_⟩
  · intro uses
    obtain ⟨spent, hspent⟩ := spends_afterAll seq uses
    exact ⟨spent, hspent.exchanges, hspent.length_le⟩
  · intro backend windowStart limits hstart uses
    obtain ⟨spent, hspent⟩ := spends_afterAll seq uses
    have hle := hspent.length_le
    have hrequests : (seq.afterAll uses).requests = spent := by
      rw [requests, hspent.exchanges, hstart]
      rfl
    rw [hrequests]
    rw [hstart] at hle
    exact hle

/-- A sequence over a log, asked for pages that hold no line. -/
def pageless : LineSequence (PagedSource (Recorder StoredLog)) :=
  { source := .start { inner := ⟨threeLines⟩ } .least ⟨0, 3, 10⟩, marker := true }

/-- Where pages hold no line, one look ahead may use up the bound on queries, and nothing is asked after
it. Fewer turns would not have done. -/
theorem lookahead_costs_pageless :
    (pageless.look 4).isNone = true ∧ pageless.look 5 = some pageless.hasNext ∧
      pageless.hasNext.2.requests.length = 3 ∧
      ∀ uses, (pageless.afterAll uses).requests.length ≤ 3 := by
  obtain ⟨⟨made, hcosts⟩, -, -, hbound⟩ := lookahead_costs pageless
  have hthree : made.length ≤ 3 := hcosts.left
  have hlook : pageless.look 5 = some pageless.hasNext := hcosts.ends 5 (by omega)
  refine ⟨by decide +kernel, hlook, ?_, hbound _ _ _ rfl⟩
  have hcount : (pageless.look 5).map (fun found => found.2.requests.length) = some 3 := by
    decide +kernel
  rw [hlook] at hcount
  exact Option.some.inj hcount

end LineSequence

end RunLog
