import RunLog.Http.Basic

/-!
Replies that came before, played back in order. A program that has only replies at hand is run until
it wants one more; the request for it is kept, so that it can be sent and the program run again.
-/

namespace RunLog

/-- A transport that plays replies back. -/
structure HttpReplay where
  /-- The replies still to be given. -/
  replies : List (Except String HttpReply)
  /-- The first request that was left without a reply. -/
  wanted : Option HttpRequest := none

namespace HttpReplay

def unanswered : String := "no reply yet"

instance : HttpTransport HttpReplay where
  send replay request := match replay.replies, replay.wanted with
    | reply :: replies, none => (reply, { replay with replies })
    | _, some first => (.error unanswered, { replay with wanted := some first })
    | [], none => (.error unanswered, { replay with wanted := some request })

end HttpReplay

end RunLog
