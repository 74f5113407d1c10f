import RunLog.Source.Basic

namespace RunLog.PageSource

variable {σ ρ : Type} [PageSource σ] [PageSource ρ]

def fetchEither : σ ⊕ ρ → Except RetrievalError PageOutcome × (σ ⊕ ρ)
  | .inl s => ((fetchNext s).1, .inl (fetchNext s).2)
  | .inr s => ((fetchNext s).1, .inr (fetchNext s).2)

instance : PageSource (σ ⊕ ρ) where
  fetchNext := fetchEither
  seekPast s id := s.map (seekPast · id) (seekPast · id)
  close s := s.map close close
  blanksLeft s := s.elim PageSupply.blanksLeft PageSupply.blanksLeft
  blanksLeft_lt s page h hblank := match s with
    | .inl s => PageSupply.blanksLeft_lt s page h hblank
    | .inr s => PageSupply.blanksLeft_lt s page h hblank
  fetchesLeft s := s.elim fetchesLeft fetchesLeft
  fetchesLeft_lt s page h := match s with
    | .inl s => fetchesLeft_lt s page h
    | .inr s => fetchesLeft_lt s page h

end RunLog.PageSource
