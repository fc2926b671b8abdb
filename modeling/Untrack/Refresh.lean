/-
  Untrack.Refresh — keeping the cache fresh ahead of those who ask for rules. A round downloads the rules, checks
  and reads them, and only then lets them take the cache's place. The loop runs round after round; a round that
  fails as foreseen is passed over, and any other fault ends the loop.
-/

import Untrack.Cache.Document
import Untrack.Download

namespace Untrack

structure Refresh where
  source : Source
  location : Location
  deriving DecidableEq, Repr

namespace Refresh

/-- What a round brought. -/
structure Summary where
  providers : Nat
  path : Text
  deriving DecidableEq, Repr

def runOnce (r : Refresh) : Act Summary := do
  let document ← Download.rulesInSession r.source
  if r.source.verifies then
    let expected ← Download.hashInSession r.source
    Act.ofExcept ((Download.verify document expected).mapError .fetch)
  let rules ← Ruleset.parse document
  Cache.writeText r.location document
  return ⟨rules.size, r.location.path⟩

/-- A round of the loop: faults that are foreseen count as its outcome. -/
def round (r : Refresh) : Act (Except Fault Summary) := do
  match ← observe r.runOnce with
  | .ok s => return .ok s
  | .error f => if f.isOfRules then return .error f else throw f

/-- The outcomes of so many rounds. -/
def runRounds (r : Refresh) : (rounds : Nat) → Act (List (Except Fault Summary))
  | 0 => return []
  | n + 1 => do
    let first ← r.round
    let rest ← runRounds r n
    return first :: rest

end Refresh
end Untrack
