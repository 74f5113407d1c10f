import RunLog.Cursors.OffsetMap
import RunLog.Scope

/-!
The cursor cache of a viewing session: for each stream, the offsets at which earlier reads stopped.

Readers hold on to the offsets of their stream by a `Handle`. Forgetting a stream takes its offsets
out of the cache but not out of the hands of the readers that hold them; whoever asks for the
stream afterwards starts a new generation.
-/

namespace RunLog

/-- A hold on one generation of a stream's offsets. -/
structure Handle where
  key : StreamKey
  /-- The number of the generation among all that the cache ever opened. -/
  generation : Nat
deriving DecidableEq

/-- Offsets of many streams, with every generation that some reader may still hold. -/
structure CursorCache where
  /-- All generations, in the order in which they were opened. -/
  generations : List OffsetMap := []
  /-- The generation that each known stream has now. -/
  live : List (StreamKey × Nat) := []
deriving Inhabited

namespace CursorCache

def empty : CursorCache := {}

def offsets (cache : CursorCache) (generation : Nat) : OffsetMap :=
  cache.generations[generation]?.getD .empty

def get? (cache : CursorCache) (key : StreamKey) (offset : UInt64) : Option ResumePoint :=
  (cache.live.lookup key).bind fun generation => (cache.offsets generation).get? offset

/-- A hold on a stream's offsets, opened if the stream is not known. -/
def hold (cache : CursorCache) (key : StreamKey) : Handle × CursorCache :=
  match cache.live.lookup key with
  | some generation => (⟨key, generation⟩, cache)
  | none =>
    -- Generations are never dropped, so their number is a new name.
    let generation := cache.generations.length
    (⟨key, generation⟩,
      { generations := cache.generations ++ [.empty], live := (key, generation) :: cache.live })

def lookup (cache : CursorCache) (handle : Handle) (offset : UInt64) : Option ResumePoint :=
  (cache.offsets handle.generation).get? offset

def record (cache : CursorCache) (handle : Handle) (offset : UInt64) (point : ResumePoint) :
    CursorCache :=
  { cache with
    generations := cache.generations.modify handle.generation fun map => map.insert offset point }

def put (cache : CursorCache) (key : StreamKey) (offset : UInt64) (point : ResumePoint) :
    CursorCache :=
  let (handle, cache) := cache.hold key
  cache.record handle offset point

/-- Drops a stream from the cache and tells whether the cache knew it. -/
def forget (cache : CursorCache) (key : StreamKey) : Bool × CursorCache :=
  ((cache.live.lookup key).isSome, { cache with live := cache.live.filter fun e => e.1 ≠ key })

def size (cache : CursorCache) : Nat :=
  (cache.live.filter fun e => !(cache.offsets e.2).isEmpty).length

def isEmpty (cache : CursorCache) : Bool := cache.size = 0

end CursorCache

/-- Where a reader finds and leaves resume points. -/
class OffsetMapper (μ : Type) where
  /-- The point recorded at an offset, if one was. -/
  resumePoint? : μ → UInt64 → Option ResumePoint
  /-- Records a point at an offset. -/
  record : μ → UInt64 → ResumePoint → μ

/-- A cache as one reader sees it: through its handle, or not at all. -/
structure CursorView where
  cache : CursorCache
  /-- Without a handle nothing is found and nothing is kept. -/
  handle : Option Handle

namespace CursorView

instance : OffsetMapper CursorView where
  resumePoint? view offset := view.handle.bind fun handle => view.cache.lookup handle offset
  record view offset point := match view.handle with
    | some handle => { view with cache := view.cache.record handle offset point }
    | none => view

end CursorView

end RunLog
