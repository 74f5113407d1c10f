import RunLog.ViewerLog

namespace RunLog

/-- What a reader wants of a log. -/
structure StreamOptions where
  /-- Mark a log that was cut short by a line of its own. -/
  marker : Bool := true
  /-- The length to show, in units of 1024 bytes. -/
  tailKb : UInt64 := ViewerLog.defaultTailKb

/-- An attempt to open a log: the log, or the reason why there is none and the source as it then
is. -/
inductive Opening (σ : Type) where
  | opened (log : ViewerLog σ)
  | refused (error : RetrievalError) (source : σ)

namespace Opening

variable {σ : Type} [PageSupply σ]

/-- Opens a log. The first page is fetched before anything is handed out, so a backend that cannot be
reached is found out at once. -/
def ofSource (source : σ) (options : StreamOptions) : Opening σ :=
  match LineSequence.hasNext { source, marker := options.marker } with
  | (.ok _, lines) => .opened (.ofStream (.ofLines lines) options.tailKb)
  | (.error e, lines) => .refused e lines.source

end Opening

end RunLog
