/-
  Untrack.World.Change — what happens in a world without a job: time goes by, the server's answers change, other
  processes write, touch or delete the cache, and folders and files get in each other's way.
-/

import Untrack.World

namespace Untrack

/-- A cache file as another process writes it, dated so many seconds back. -/
structure ForeignFile where
  content : Bytes
  age : Int
  deriving DecidableEq, Repr

inductive Change
  | serve (server : Server)
  | advance (seconds : Int)
  | write (file : ForeignFile)
  | touch (age : Int)
  | delete
  /-- The cache's path becomes a folder. -/
  | makeFolder
  /-- The cache's folder, with all in it, becomes a file. -/
  | block
  | unblock
  deriving DecidableEq, Repr

namespace Change
open Cache (Spot)

/-- What stands at the cache's path after a change; nothing when the change does not concern the path. -/
def spotAfter? (now : Int) : Change → Spot → Option Spot
  | write f, .empty => some (.file f.content (now - f.age))
  | write f, .file _ _ => some (.file f.content (now - f.age))
  | touch age, .file content _ => some (.file content (now - age))
  | touch age, .folder _ => some (.folder (now - age))
  | delete, .file _ _ => some .empty
  | delete, .folder _ => some .empty
  | makeFolder, .empty => some (.folder now)
  | makeFolder, .file _ _ => some (.folder now)
  | makeFolder, .folder _ => some (.folder now)
  | block, _ => some .blocked
  | unblock, .blocked => some .empty
  | _, _ => none

def apply (c : Change) (w : World) : World :=
  match c with
  | serve server => { w with server }
  | advance seconds => { w with now := w.now + seconds }
  | c =>
    match c.spotAfter? w.now w.shelf.spot with
    | some spot => { w with shelf := w.shelf.put spot }
    | none => w

end Change
end Untrack
