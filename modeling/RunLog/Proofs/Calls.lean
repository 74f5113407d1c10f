import RunLog.Proofs.Paging

/-! Calls to a paged source in any order, over a backend that may answer anything. A `PagedRun` keeps
what was asked and what came of it. Main statements: what one fetch adds to a run, and that whatever
every call keeps holds after all of them. -/

namespace RunLog

/-- A request to a backend, and the answer to it. -/
structure Exchange where
  windowStart : LineId
  limit : Nat
  answer : Except RetrievalError Page

/-- The ids of all lines that came, also of those that a bound cut off. -/
def Exchange.ids (x : Exchange) : List LineId :=
  match x.answer with
  | .ok page => page.lines.map LogLine.id
  | .error _ => []

/-- A backend of any kind with a record of its exchanges, the oldest first. -/
structure Recorder (φ : Type) where
  inner : φ
  exchanges : List Exchange := []

namespace Recorder

variable {φ : Type} [PageFetcher φ]

/-- Passes a request on to the backend, and notes it with the answer. -/
def fetch (recorder : Recorder φ) (windowStart : LineId) (limit : Nat) :
    Except RetrievalError Page × Recorder φ :=
  let answer := PageFetcher.fetch recorder.inner windowStart limit
  (answer.1, ⟨answer.2, recorder.exchanges ++ [⟨windowStart, limit, answer.1⟩]⟩)

instance : PageFetcher (Recorder φ) where
  fetch := fetch
  close recorder := { recorder with inner := PageFetcher.close recorder.inner }

theorem exchanges_of_fetch {before after : Recorder φ} {windowStart : LineId} {limit : Nat}
    {answer : Except RetrievalError Page}
    (h : PageFetcher.fetch before windowStart limit = (answer, after)) :
    after.exchanges = before.exchanges ++ [⟨windowStart, limit, answer⟩] := by
  obtain ⟨rfl, rfl⟩ := Prod.mk.inj h
  rfl

end Recorder

/-- Where a page takes a cursor does not depend on the queries that were issued. -/
theorem Cursor.behind_windowStart_issued (cursor : Cursor) (n : Nat) (lines : List LogLine) :
    ({ cursor with queriesIssued := n }.behind lines).windowStart =
      (cursor.behind lines).windowStart := by
  unfold behind
  split
  · unfold passing
    split <;> rfl
  · rfl

/-- What can be asked of a source of pages. -/
inductive SourceCall where
  | fetchNext
  | seekPast (id : LineId)
  | close
deriving DecidableEq

/-- A source over a recorded backend, and what came of the calls to it. -/
structure PagedRun (φ : Type) where
  source : PagedSource (Recorder φ)
  /-- What the fetches gave, the oldest first. -/
  outcomes : List (Except RetrievalError PageOutcome) := []
  /-- The ids that were sought, the oldest first. -/
  sought : List LineId := []

namespace PagedRun

variable {φ : Type} [PageFetcher φ]

def start (backend : φ) (windowStart : LineId) (limits : Limits) : PagedRun φ :=
  { source := .start { inner := backend } windowStart limits }

def call (run : PagedRun φ) : SourceCall → PagedRun φ
  | .fetchNext => { run with
      source := run.source.fetchNext.2, outcomes := run.outcomes ++ [run.source.fetchNext.1] }
  | .seekPast id => { run with source := run.source.seekPast id, sought := run.sought ++ [id] }
  | .close => { run with source := run.source.close }

def callAll (run : PagedRun φ) (calls : List SourceCall) : PagedRun φ := calls.foldl call run

def requests (run : PagedRun φ) : List Exchange := run.source.fetcher.exchanges

/-- The ids of all lines that the backend gave out. -/
def returned (run : PagedRun φ) : List LineId := run.requests.flatMap Exchange.ids

def page? : Except RetrievalError PageOutcome → Option Page
  | .ok (.page page) => some page
  | _ => none

/-- The lines that a fetch gives out. -/
def given (outcome : Except RetrievalError PageOutcome) : List LogLine :=
  (page? outcome).toList.flatMap Page.lines

def breaker? : Except RetrievalError PageOutcome → Option Breaker
  | .ok (.circuitBroken breaker) => some breaker
  | _ => none

def pages (run : PagedRun φ) : List Page := run.outcomes.filterMap page?

def emitted (run : PagedRun φ) : List LogLine := run.pages.flatMap Page.lines

/-- The bounds that the source named as the reason for its end. -/
def breakers (run : PagedRun φ) : List Breaker := run.outcomes.filterMap breaker?

/-- What every call keeps, calls keep. -/
theorem callAll_induction {motive : PagedRun φ → Prop} {run : PagedRun φ} (init : motive run)
    (step : ∀ run call, motive run → motive (run.call call)) (calls : List SourceCall) :
    motive (run.callAll calls) := by
  induction calls generalizing run with
  | nil => exact init
  | cons call calls ih => exact ih (step run call init)

variable (run : PagedRun φ)

@[simp] theorem callAll_cons (call : SourceCall) (calls : List SourceCall) :
    run.callAll (call :: calls) = (run.call call).callAll calls := rfl

theorem limits_call (call : SourceCall) : (run.call call).source.limits = run.source.limits := by
  cases call with
  | fetchNext => exact run.source.fetched.limits_eq
  | seekPast id => rfl
  | close => rfl

theorem pages_fetchNext :
    (run.call .fetchNext).pages = run.pages ++ (page? run.source.fetchNext.1).toList := by
  change (run.outcomes ++ [run.source.fetchNext.1]).filterMap page? = _
  rw [List.filterMap_append]
  cases h : page? run.source.fetchNext.1 <;> simp [pages, h]

theorem emitted_fetchNext :
    (run.call .fetchNext).emitted = run.emitted ++ given run.source.fetchNext.1 := by
  rw [emitted, pages_fetchNext, List.flatMap_append]
  rfl

theorem breakers_fetchNext :
    (run.call .fetchNext).breakers = run.breakers ++ (breaker? run.source.fetchNext.1).toList := by
  change (run.outcomes ++ [run.source.fetchNext.1]).filterMap breaker? = _
  rw [List.filterMap_append]
  cases h : breaker? run.source.fetchNext.1 <;> simp [breakers, h]

/-- The lines that a fetched page brings are given out, as a page or, if there are none, as the end. -/
theorem given_of_loaded (lines : List LogLine) (status : Nat) (known : Bool) :
    given (.ok (if lines.isEmpty && known then .exhausted else .page ⟨lines, status⟩)) = lines := by
  cases lines with
  | nil => cases known <;> rfl
  | cons line lines => simp [given, page?]

/-- A fetch asks nothing where the end is known or a bound forbids it, and nothing moves. Otherwise it
asks for the page of the window at which the source stands; a page that comes moves the source behind
its lines and is given out as far as the bound on lines allows. -/
theorem fetchNext_cases :
    ((run.source.cursor.exhausted = true ∨
        run.source.cursor.breaker? run.source.limits ≠ none) ∧
      (run.call .fetchNext).requests = run.requests ∧
      (run.call .fetchNext).source.cursor.windowStart = run.source.cursor.windowStart ∧
      given run.source.fetchNext.1 = []) ∨
    (∃ e, (run.call .fetchNext).requests = run.requests ++
        [⟨run.source.cursor.windowStart, run.source.limits.pageSize, .error e⟩] ∧
      (run.call .fetchNext).source.cursor.windowStart = run.source.cursor.windowStart ∧
      given run.source.fetchNext.1 = []) ∨
    ∃ page, (run.call .fetchNext).requests = run.requests ++
        [⟨run.source.cursor.windowStart, run.source.limits.pageSize, .ok page⟩] ∧
      (run.call .fetchNext).source.cursor.windowStart =
        (run.source.cursor.behind page.lines).windowStart ∧
      given run.source.fetchNext.1 = run.source.cursor.emitted run.source.limits page.lines := by
  have hf := run.source.fetched
  change (_ ∧ run.source.fetchNext.2.fetcher.exchanges = _ ∧
      run.source.fetchNext.2.cursor.windowStart = _ ∧ _) ∨
    (∃ e, run.source.fetchNext.2.fetcher.exchanges = _ ∧
      run.source.fetchNext.2.cursor.windowStart = _ ∧ _) ∨
    ∃ page, run.source.fetchNext.2.fetcher.exchanges = _ ∧
      run.source.fetchNext.2.cursor.windowStart = _ ∧ _
  generalize run.source.fetchNext.1 = outcome at hf ⊢
  generalize run.source.fetchNext.2 = after at hf ⊢
  cases hf with
  | ended he => exact .inl ⟨.inl he, rfl, rfl, rfl⟩
  | broken breaker he hb => exact .inl ⟨.inr (by simp [hb]), rfl, rfl, rfl⟩
  | failed e fetcher he hb hf =>
    exact .inr (.inl ⟨e, Recorder.exchanges_of_fetch hf, rfl, rfl⟩)
  | loaded page fetcher asked he hb hf ha =>
    refine .inr (.inr ⟨page, Recorder.exchanges_of_fetch hf, ?_, ?_⟩)
    · change (asked.behind page.lines).windowStart = _
      rw [ha]
      exact run.source.cursor.behind_windowStart_issued _ page.lines
    · rw [given_of_loaded, ha]
      rfl

/-- What a fetch gives out came in answer to its request, and is in order. -/
theorem given_fetchNext_cases :
    given run.source.fetchNext.1 = [] ∨
    ∃ page, (run.call .fetchNext).requests = run.requests ++
        [⟨run.source.cursor.windowStart, run.source.limits.pageSize, .ok page⟩] ∧
      given run.source.fetchNext.1 = run.source.cursor.emitted run.source.limits page.lines := by
  rcases run.fetchNext_cases with ⟨-, -, -, hnil⟩ | ⟨e, -, -, hnil⟩ | ⟨page, hrequests, -, hgiven⟩
  · exact .inl hnil
  · exact .inl hnil
  · exact .inr ⟨page, hrequests, hgiven⟩

theorem requests_fetchNext :
    (run.call .fetchNext).requests = run.requests ∨
    ∃ answer, (run.call .fetchNext).requests =
      run.requests ++ [⟨run.source.cursor.windowStart, run.source.limits.pageSize, answer⟩] := by
  rcases run.fetchNext_cases with ⟨-, hrequests, -⟩ | ⟨e, hrequests, -⟩ | ⟨page, hrequests, -⟩
  · exact .inl hrequests
  · exact .inr ⟨_, hrequests⟩
  · exact .inr ⟨_, hrequests⟩

theorem requests_fetchNext_of_room (he : run.source.cursor.exhausted = false)
    (hb : run.source.cursor.breaker? run.source.limits = none) :
    ∃ answer, (run.call .fetchNext).requests =
      run.requests ++ [⟨run.source.cursor.windowStart, run.source.limits.pageSize, answer⟩] := by
  rcases run.fetchNext_cases with ⟨hstop, -⟩ | ⟨e, hrequests, -⟩ | ⟨page, hrequests, -⟩
  · rcases hstop with he' | hb'
    · exact nomatch he.symm.trans he'
    · exact absurd hb hb'
  · exact ⟨_, hrequests⟩
  · exact ⟨_, hrequests⟩

end PagedRun

end RunLog
