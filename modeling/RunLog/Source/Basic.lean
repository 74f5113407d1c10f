import RunLog.Error
import RunLog.Line

/-!
Where pages come from. A `PageFetcher` answers single range queries. A `PageSupply` hands out pages one
after another, perhaps for ever, but only so many of them in a row have no lines: its law
`blanksLeft_lt` is what looking for the next line ends by. A `PageSource` is a supply that runs out of
pages, by its law `fetchesLeft_lt`, so that all of it can be read.
-/

namespace RunLog

/-- The bound that ended a retrieval early. -/
inductive Breaker where
  | maxLines
  | maxQueries
deriving DecidableEq, Repr

/-- What a source answers when it is asked for the next page. -/
inductive PageOutcome where
  /-- Lines, possibly none of them; more may follow. -/
  | page (page : Page)
  | exhausted
  /-- A bound was reached; what was read so far stands. -/
  | circuitBroken (breaker : Breaker)
deriving DecidableEq

/-- A backend that runs one range query at a time. -/
class PageFetcher (φ : Type) where
  /-- Asks for up to `limit` lines with ids from `windowStart` on. -/
  fetch : φ → LineId → Nat → Except RetrievalError Page × φ
  /-- Releases what the backend holds. -/
  close : φ → φ

/-- A supplier of pages. -/
class PageSupply (σ : Type) where
  /-- Asks for the next page. -/
  fetchNext : σ → Except RetrievalError PageOutcome × σ
  /-- Makes the next fetch start after the given id, never earlier than it would have started. -/
  seekPast : σ → LineId → σ
  /-- Releases what the supplier holds. -/
  close : σ → σ
  /-- A bound on the pages without lines that may come before one with lines. -/
  blanksLeft : σ → Nat
  /-- A page without lines uses up a part of that bound; one with lines may set it anew. -/
  blanksLeft_lt : ∀ s page, (fetchNext s).1 = .ok (.page page) → page.lines = [] →
    blanksLeft (fetchNext s).2 < blanksLeft s

/-- A supplier of pages that ends after finitely many of them. -/
class PageSource (σ : Type) extends PageSupply σ where
  /-- A bound on the pages that may still come. -/
  fetchesLeft : σ → Nat
  /-- Every page uses up a part of the bound. -/
  fetchesLeft_lt : ∀ s page, (fetchNext s).1 = .ok (.page page) →
    fetchesLeft (fetchNext s).2 < fetchesLeft s

namespace PageSource

export PageSupply (fetchNext seekPast close)

end PageSource

end RunLog
