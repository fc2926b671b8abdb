/-
  Untrack.Ruleset.Basic — a rule set: providers in the order of their names, code point by code point, no name
  twice.
-/

import Untrack.Ruleset.Provider

namespace Untrack

structure Ruleset where
  providers : List Provider
  deriving DecidableEq, Repr

namespace Ruleset

/-- The first name that occurred before, after those seen already. -/
def firstRepeated (seen : List Text) : List Text → Option Text
  | [] => none
  | n :: ns => if n ∈ seen then some n else firstRepeated (n :: seen) ns

def byName (p q : Provider) : Bool := p.name.precedes q.name

/-- The rule set of some providers, or the first name that two of them share. -/
def ofProviders (ps : List Provider) : Except Text Ruleset :=
  match firstRepeated [] (ps.map (·.name)) with
  | some n => .error n
  | none => .ok ⟨ps.mergeSort byName⟩

def names (r : Ruleset) : List Text := r.providers.map (·.name)

def get? (r : Ruleset) (name : Text) : Option Provider := r.providers.find? (·.name == name)

def contains (r : Ruleset) (name : Text) : Bool := r.providers.any (·.name == name)

def size (r : Ruleset) : Nat := r.providers.length

end Ruleset
end Untrack
