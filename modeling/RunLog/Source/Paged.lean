import RunLog.Source.Basic

/-!
Paging: range queries follow one another, each starting right after the highest id seen, until a
page comes back short or a bound on queries or lines is reached.
-/

namespace RunLog

/-- Bounds on one retrieval. -/
structure Limits where
  /-- Lines asked for in one query. -/
  pageSize : Nat := 1000
  maxQueries : Nat := 100
  maxLines : Nat := 18446744073709551615
deriving DecidableEq

namespace Limits

def withPageSize (limits : Limits) (n : Nat) : Limits := { limits with pageSize := max n 1 }

def withMaxQueries (limits : Limits) (n : Nat) : Limits := { limits with maxQueries := n }

def withMaxLines (limits : Limits) (n : Nat) : Limits := { limits with maxLines := n }

end Limits

/-- How far a retrieval has come. -/
structure Cursor where
  /-- The id from which the next query asks. -/
  windowStart : LineId
  linesEmitted : Nat := 0
  queriesIssued : Nat := 0
  exhausted : Bool := false
  /-- The bound that ended the retrieval, if one did. -/
  tripped : Option Breaker := none
deriving DecidableEq

namespace Cursor

/-- The bound that forbids another query; the bound on lines is named first. -/
def breaker? (cursor : Cursor) (limits : Limits) : Option Breaker :=
  if limits.maxLines ≤ cursor.linesEmitted then some .maxLines
  else if limits.maxQueries ≤ cursor.queriesIssued then some .maxQueries
  else none

/-- The cursor after moving to start behind `id`, unless it already starts later. -/
def passing (cursor : Cursor) (id : LineId) : Cursor :=
  if cursor.windowStart < id.next then { cursor with windowStart := id.next } else cursor

/-- Lines in the order of their ids; lines of one id keep the order in which they came. -/
def arrange (lines : List LogLine) : List LogLine := lines.mergeSort fun a b => a.id ≤ b.id

/-- The lines that a fetched page adds to the log: all of them in order, as far as the bound on
lines allows. -/
def emitted (cursor : Cursor) (limits : Limits) (lines : List LogLine) : List LogLine :=
  (arrange lines).take (limits.maxLines - cursor.linesEmitted)

def behind (cursor : Cursor) (lines : List LogLine) : Cursor :=
  match (arrange lines).getLast? with
  | some last => cursor.passing last.id
  | none => cursor

/-- The cursor after a fetched page. -/
def absorb (cursor : Cursor) (limits : Limits) (lines : List LogLine) : Cursor :=
  let count := (cursor.emitted limits lines).length
  { cursor.behind lines with
    linesEmitted := cursor.linesEmitted + count
    -- A page that is not full is the last one, unless the bound on lines cut it: then the next call
    -- names that bound.
    exhausted := decide (lines.length < limits.pageSize ∧ count = lines.length) }

theorem passing_queriesIssued (cursor : Cursor) (id : LineId) :
    (cursor.passing id).queriesIssued = cursor.queriesIssued := by
  unfold passing
  split <;> rfl

theorem absorb_queriesIssued (cursor : Cursor) (limits : Limits) (lines : List LogLine) :
    (cursor.absorb limits lines).queriesIssued = cursor.queriesIssued := by
  unfold absorb behind
  split
  · exact passing_queriesIssued _ _
  · rfl

/-- Where no bound forbids a query, the bound on queries is not reached. -/
theorem queriesIssued_lt_of_breaker?_eq_none {cursor : Cursor} {limits : Limits}
    (h : cursor.breaker? limits = none) : cursor.queriesIssued < limits.maxQueries := by
  unfold breaker? at h
  split at h
  · simp at h
  · split at h
    · simp at h
    · omega

end Cursor

/-- Pages over a backend, from a cursor on and within limits. -/
structure PagedSource (φ : Type) where
  fetcher : φ
  limits : Limits
  cursor : Cursor

namespace PagedSource

variable {φ : Type}

def start (fetcher : φ) (windowStart : LineId) (limits : Limits) : PagedSource φ :=
  ⟨fetcher, limits, { windowStart }⟩

variable [PageFetcher φ]

/-- Issues the next query, unless the end is known or a bound forbids it. -/
def fetchNext (s : PagedSource φ) : Except RetrievalError PageOutcome × PagedSource φ :=
  if s.cursor.exhausted then (.ok .exhausted, s)
  else match s.cursor.breaker? s.limits with
    | some breaker =>
      (.ok (.circuitBroken breaker),
        { s with cursor := { s.cursor with exhausted := true, tripped := some breaker } })
    | none =>
      -- A query counts from when it is issued, also if it fails.
      let asked := { s.cursor with queriesIssued := s.cursor.queriesIssued + 1 }
      match PageFetcher.fetch s.fetcher s.cursor.windowStart s.limits.pageSize with
      | (.error e, fetcher) => (.error e, { s with fetcher, cursor := asked })
      | (.ok page, fetcher) =>
        let lines := asked.emitted s.limits page.lines
        let cursor := asked.absorb s.limits page.lines
        let outcome := if lines.isEmpty && cursor.exhausted then .exhausted
          else .page ⟨lines, page.status⟩
        (.ok outcome, { s with fetcher, cursor })

/-- Moves the cursor behind an id, never back. -/
def seekPast (s : PagedSource φ) (id : LineId) : PagedSource φ :=
  { s with cursor := s.cursor.passing id }

def close (s : PagedSource φ) : PagedSource φ :=
  { s with cursor := { s.cursor with exhausted := true }, fetcher := PageFetcher.close s.fetcher }

def queriesLeft (s : PagedSource φ) : Nat := s.limits.maxQueries - s.cursor.queriesIssued

/-- A page costs a query, so only as many pages come as the bound on queries allows. -/
theorem queriesLeft_fetchNext_lt (s : PagedSource φ) (page : Page)
    (h : s.fetchNext.1 = .ok (.page page)) : s.fetchNext.2.queriesLeft < s.queriesLeft := by
  revert h
  unfold fetchNext
  split
  · simp
  · split
    · simp
    · next hb =>
      have hlt := Cursor.queriesIssued_lt_of_breaker?_eq_none hb
      split
      · simp
      · intro _
        simp only [queriesLeft, Cursor.absorb_queriesIssued]
        omega

instance : PageSource (PagedSource φ) where
  fetchNext := fetchNext
  seekPast := seekPast
  close := close
  blanksLeft := queriesLeft
  blanksLeft_lt s page h _ := queriesLeft_fetchNext_lt s page h
  fetchesLeft := queriesLeft
  fetchesLeft_lt := queriesLeft_fetchNext_lt

end PagedSource

end RunLog
