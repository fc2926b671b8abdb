/-
  Untrack.Cache.Document — the cache as a job sees it: the time it was modified, whether it is stale, and the
  document in it, which is UTF-8 and kept to the byte.
-/

import Untrack.Bytes.Utf8
import Untrack.Duration
import Untrack.World

namespace Untrack

/-- The fault of a cache that cannot be read when rules are asked for. -/
def Fault.whenReading (path : Text) : Fault → Fault
  | cache f => fetch (.unreadable path f)
  | f => f

namespace Cache

def exists? : Act Bool := fun w => (.ok w.shelf.holdsFile, w)

def modified? (l : Location) : Act (Option Int) := .ofShelf (·.modified? l)

/-- Whether something modified at a time is older than allowed; what is not there is. -/
def isOutdated (maxAge : Duration) (now : Int) : (modified : Option Int) → Bool
  | none => true
  | some t => maxAge.micros < (Duration.ofSeconds (now - t)).micros

def isStaleAt (l : Location) (maxAge : Duration) (now : Int) : Act Bool :=
  return isOutdated maxAge now (← modified? l)

def isStale (l : Location) (maxAge : Duration) : Act Bool := do
  let w ← get
  isStaleAt l maxAge w.now

def readText (l : Location) : Act Text := do
  let content ← Act.ofShelf (·.read l)
  .ofExcept ((Bytes.Utf8.decode content).mapError .cacheNotUtf8)

/-- The document in the cache, for whoever asks for rules. -/
def document (l : Location) : Act Text := (readText l).adapt (.whenReading l.path)

/-- Keeps a document in the cache. -/
def writeText (l : Location) (document : Text) : Act Unit := fun w =>
  let (r, shelf) := w.shelf.write l w.now (Bytes.Utf8.encode document)
  (r.mapError fun f => .fetch (.unwritable l.path f), { w with shelf })

end Cache
end Untrack
