import RunLog.Source.Basic

namespace RunLog

/-- A backend whose requests are noted and some of which fail. -/
structure ObservedFetcher (φ : Type) where
  inner : φ
  /-- The requests that fail, counted from one, and how they fail. -/
  failures : List (Nat × RetrievalError) := []
  /-- The number of requests so far. -/
  count : Nat := 0
  /-- What was asked: from which id on, and for how many lines; the latest request first. -/
  requests : List (LineId × Nat) := []
  /-- The number of times the backend was closed. -/
  closes : Nat := 0

namespace ObservedFetcher

variable {φ : Type} [PageFetcher φ]

/-- Answers a request; one that fails does not reach the backend. -/
def fetch (fetcher : ObservedFetcher φ) (windowStart : LineId) (limit : Nat) :
    Except RetrievalError Page × ObservedFetcher φ :=
  let noted := { fetcher with
    count := fetcher.count + 1, requests := (windowStart, limit) :: fetcher.requests }
  match fetcher.failures.lookup noted.count with
  | some e => (.error e, noted)
  | none =>
    let (answer, inner) := PageFetcher.fetch fetcher.inner windowStart limit
    (answer, { noted with inner })

instance : PageFetcher (ObservedFetcher φ) where
  fetch := fetch
  close fetcher :=
    { fetcher with inner := PageFetcher.close fetcher.inner, closes := fetcher.closes + 1 }

end ObservedFetcher

end RunLog
