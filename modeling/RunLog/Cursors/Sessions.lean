import RunLog.Cursors.Cache

namespace RunLog

/-- The caches of all sessions by session token. A cache that somebody still holds outlives its session,
so those of sessions that have ended stay. -/
structure Sessions where
  /-- All caches, in the order in which their sessions began. -/
  caches : List CursorCache := []
  /-- The place of each running session's cache. -/
  running : List (String × Nat) := []

namespace Sessions

/-- The place of a session's cache, which is new on first use. -/
def session (sessions : Sessions) (token : String) : Nat × Sessions :=
  match sessions.running.lookup token with
  | some place => (place, sessions)
  | none =>
    let place := sessions.caches.length
    (place,
      { caches := sessions.caches ++ [.empty], running := (token, place) :: sessions.running })

def cacheAt (sessions : Sessions) (place : Nat) : CursorCache :=
  sessions.caches[place]?.getD .empty

def setCacheAt (sessions : Sessions) (place : Nat) (cache : CursorCache) : Sessions :=
  { sessions with caches := sessions.caches.set place cache }

def endSession (sessions : Sessions) (token : String) : Bool × Sessions :=
  ((sessions.running.lookup token).isSome,
    { sessions with running := sessions.running.filter fun e => e.1 ≠ token })

def activeCount (sessions : Sessions) : Nat := sessions.running.length

end Sessions

end RunLog
