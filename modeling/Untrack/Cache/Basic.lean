/-
  Untrack.Cache.Basic — the cache: one file that keeps the last rules document, byte for byte, and whose time of
  modification says how fresh it is. What stands at the cache's path may be a file, a folder or nothing, or the
  path may lead through a file (`Spot`).

  A document is written as a draft beside the cache, which then takes the cache's place; a draft that cannot is
  removed. So the cache never holds half a document, and a failed write leaves everything as it was
  (`write_error`). What takes the cache's place pushes what stood there into the past (`Shelf.put`).
-/

import Untrack.Bytes.Basic
import Untrack.Text.Quoted

namespace Untrack

/-- The path of the cache, and of the folder it is in. -/
structure Location where
  path : Text
  folder : Text
  deriving DecidableEq, Repr

namespace Cache

/-- Why the system refuses to do something with the cache. -/
inductive Fault
  | absent (path : Text)
  | throughFile (path : Text)
  | isFolder (path : Text)
  /-- A file stands where the cache's folder would be made. -/
  | folderTaken (folder : Text)
  /-- A draft would take the place of a folder. -/
  | replacesFolder (draft path : Text)
  deriving DecidableEq, Repr

def Fault.message : Fault → String
  | .absent path => "[Errno 2] No such file or directory: " ++ path.quoted
  | .throughFile path => "[Errno 20] Not a directory: " ++ path.quoted
  | .isFolder path => "[Errno 21] Is a directory: " ++ path.quoted
  | .folderTaken folder => "[Errno 17] File exists: " ++ folder.quoted
  | .replacesFolder draft path => "[Errno 21] Is a directory: " ++ draft.quoted ++ " -> " ++ path.quoted

/-- What stands at the cache's path. Times of modification are whole seconds since the epoch, early or late as they
may be. Fractions of a second are left out, and so is the fault of a time before the year 1 or after the year 9999,
which is no date and so cannot be asked for. -/
inductive Spot
  | empty
  | file (content : Bytes) (modified : Int)
  | folder (modified : Int)
  /-- The cache's folder is a file. -/
  | blocked
  deriving DecidableEq, Repr

/-- The cache's path, and the drafts beside it, the latest first. -/
structure Shelf where
  spot : Spot
  drafts : List Bytes
  /-- What stood at the path before, the latest first. -/
  past : List Spot
  deriving DecidableEq, Repr

namespace Shelf

def bare : Shelf := ⟨.empty, [], []⟩

/-- Something new stands at the path. -/
def put (spot : Spot) (s : Shelf) : Shelf := { s with spot, past := s.spot :: s.past }

/-- Whether there is a cache file. -/
def holdsFile (s : Shelf) : Bool :=
  match s.spot with
  | .file _ _ => true
  | _ => false

/-- The time of modification of what stands at the path. -/
def modified? (l : Location) (s : Shelf) : Except Fault (Option Int) :=
  match s.spot with
  | .empty => .ok none
  | .file _ t => .ok (some t)
  | .folder t => .ok (some t)
  | .blocked => .error (.throughFile l.path)

def read (l : Location) (s : Shelf) : Except Fault Bytes :=
  match s.spot with
  | .empty => .error (.absent l.path)
  | .file content _ => .ok content
  | .folder _ => .error (.isFolder l.path)
  | .blocked => .error (.throughFile l.path)

def draftPath (l : Location) : Text := l.folder ++ "/<tmp>".toList

def addDraft (content : Bytes) (s : Shelf) : Shelf := { s with drafts := content :: s.drafts }

def removeDraft (s : Shelf) : Shelf := { s with drafts := s.drafts.tail }

/-- Moves the latest draft to the path. -/
def publish (l : Location) (now : Int) (s : Shelf) : Except Fault Shelf :=
  match s.drafts, s.spot with
  | [], _ => .error (.absent (draftPath l))
  | _, .folder _ => .error (.replacesFolder (draftPath l) l.path)
  | _, .blocked => .error (.throughFile l.path)
  | content :: older, _ => .ok ({ s with drafts := older }.put (.file content now))

/-- Keeps a document at the path. -/
def write (l : Location) (now : Int) (content : Bytes) (s : Shelf) : Except Fault Unit × Shelf :=
  match s.spot with
  | .blocked => (.error (.folderTaken l.folder), s)
  | _ =>
    let drafted := s.addDraft content
    match drafted.publish l now with
    | .ok published => (.ok (), published)
    | .error f => (.error f, drafted.removeDraft)

/-- A write that fails leaves the path and the drafts as they were. -/
theorem write_error {l : Location} {now : Int} {content : Bytes} {s : Shelf} {f : Fault}
    (h : (s.write l now content).1 = .error f) : (s.write l now content).2 = s := by
  obtain ⟨spot, drafts, past⟩ := s
  cases spot <;> simp_all [write, publish, addDraft, removeDraft]

/-- A write that succeeds leaves the document at the path and no draft. -/
theorem write_ok {l : Location} {now : Int} {content : Bytes} {s : Shelf}
    (h : (s.write l now content).1 = .ok ()) : (s.write l now content).2 = s.put (.file content now) := by
  obtain ⟨spot, drafts, past⟩ := s
  cases spot <;> simp_all [write, publish, addDraft, put]

end Shelf
end Cache
end Untrack
