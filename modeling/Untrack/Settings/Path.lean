/-
  Untrack.Settings.Path — paths in their plain form: one slash between parts, and no part that is empty or a
  single dot. A part of two dots stays. A path that starts with exactly two slashes keeps them, and a path
  without parts is a dot.
-/

import Untrack.Cache.Basic

namespace Untrack

structure Path where
  root : Text
  parts : List Text
  deriving DecidableEq, Repr

namespace Path

def rootOf : Text → Text
  | '/' :: '/' :: '/' :: _ => ['/']
  | '/' :: '/' :: _ => ['/', '/']
  | '/' :: _ => ['/']
  | _ => []

def isPart (t : Text) : Bool := !t.isEmpty && t != ['.']

def ofText (t : Text) : Path := ⟨rootOf t, (t.pieces (· == '/')).filter isPart⟩

def toText (p : Path) : Text :=
  if p.root.isEmpty && p.parts.isEmpty then ['.'] else p.root ++ ['/'].intercalate p.parts

/-- The folder that a path is in; a path without parts is in itself. -/
def parent (p : Path) : Path := { p with parts := p.parts.dropLast }

def location (p : Path) : Location := ⟨p.toText, p.parent.toText⟩

end Path
end Untrack
