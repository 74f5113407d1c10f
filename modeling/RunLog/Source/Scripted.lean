import RunLog.Source.Basic

namespace RunLog

/-- Outcomes still to be handed out, and what was asked of the source so far. -/
structure ScriptedSource where
  outcomes : List (Except RetrievalError PageOutcome)
  /-- Number of fetches. -/
  fetches : Nat := 0
  /-- The ids that were sought, the latest first. -/
  seeks : List LineId := []
  /-- Number of times the source was closed. -/
  closes : Nat := 0

namespace ScriptedSource

/-- Hands out the next outcome; behind the last one the source stays exhausted. -/
def fetchNext (s : ScriptedSource) : Except RetrievalError PageOutcome × ScriptedSource :=
  match s.outcomes with
  | [] => (.ok .exhausted, { s with fetches := s.fetches + 1 })
  | outcome :: rest => (outcome, { s with outcomes := rest, fetches := s.fetches + 1 })

theorem outcomes_fetchNext_lt (s : ScriptedSource) (page : Page)
    (h : s.fetchNext.1 = .ok (.page page)) :
    s.fetchNext.2.outcomes.length < s.outcomes.length := by
  unfold fetchNext at h ⊢
  split at h
  · simp at h
  · next heq => simp [heq]

instance : PageSource ScriptedSource where
  fetchNext := fetchNext
  seekPast s id := { s with seeks := id :: s.seeks }
  close s := { s with closes := s.closes + 1 }
  blanksLeft s := s.outcomes.length
  blanksLeft_lt s page h _ := outcomes_fetchNext_lt s page h
  fetchesLeft s := s.outcomes.length
  fetchesLeft_lt := outcomes_fetchNext_lt

end ScriptedSource

end RunLog
