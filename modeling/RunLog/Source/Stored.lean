import RunLog.Source.Basic

namespace RunLog

/-- A backend that stores lines and never fails. -/
structure StoredLog where
  lines : List LogLine

namespace StoredLog

/-- The first `limit` stored lines with ids from `windowStart` on, in stored order. -/
def select (log : StoredLog) (windowStart : LineId) (limit : Nat) : List LogLine :=
  (log.lines.filter fun line => windowStart ≤ line.id).take limit

instance : PageFetcher StoredLog where
  fetch log windowStart limit := (.ok ⟨log.select windowStart limit, 200⟩, log)
  close log := log

end StoredLog

end RunLog
