import RunLog.Source.Basic

namespace RunLog.PageSource

variable {σ : Type} [PageSource σ]

/-- The pages of a source up to the first outcome that is none, and that outcome. -/
def drain (s : σ) : List Page × Except RetrievalError PageOutcome × σ :=
  let answer := fetchNext s
  match h : answer.1 with
  | .ok (.page page) =>
    have := fetchesLeft_lt s page h
    let (pages, rest) := drain answer.2
    (page :: pages, rest)
  | outcome => ([], outcome, answer.2)
termination_by fetchesLeft s

end RunLog.PageSource
