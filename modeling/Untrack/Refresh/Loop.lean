/-
  Untrack.Refresh.Loop — the loop that keeps the cache fresh, step by step, while others may tell it to stop. It looks
  whether it was told to, runs a round, pauses, and looks again. A round waits for the rules, and then for their hash
  if the source is verified (`Stage`); the loop may be told to stop at any moment, also while a round waits or in a
  pause, and only finds out when it looks.

  A round that fails as foreseen is passed over; any other fault ends the loop there and then. Pauses end by
  themselves or because the loop is told to stop, and nothing but the loop changes the world here.
-/

import Untrack.Refresh

namespace Untrack.Refresh

/-- What the loop is about to do. -/
inductive Stage
  /-- To look whether it was told to stop. -/
  | looking
  | fetching
  /-- To fetch the hash and verify the document by it. -/
  | verifying (document : Text)
  | pausing
  /-- The loop is over, by a fault or because it was told to stop. -/
  | ended (fault : Option Fault)
  deriving DecidableEq, Repr

structure Loop where
  world : World
  stopped : Bool
  stage : Stage
  /-- What came of the rounds so far, the earliest first. -/
  outcomes : List (Except Fault Summary)

inductive Move
  /-- The loop takes its next step. -/
  | go
  /-- Someone tells the loop to stop. -/
  | stop
  deriving DecidableEq, Repr

/-- Reads a document, keeps it and tells of its rules. -/
def keep (r : Refresh) (document : Text) : Act Summary := do
  let rules ← Ruleset.parse document
  Cache.writeText r.location document
  return ⟨rules.size, r.location.path⟩

/-- Fetches the hash and keeps the document if it is verified by it. -/
def verify (r : Refresh) (document : Text) : Act Summary := do
  let expected ← Download.hashInSession r.source
  Act.ofExcept ((Download.verify document expected).mapError .fetch)
  r.keep document

namespace Loop

def start (w : World) : Loop := ⟨w, false, .looking, []⟩

/-- The loop once its round has come to an end. -/
def conclude (l : Loop) : Except Fault Summary × World → Loop
  | (.ok s, world) => { l with world, stage := .pausing, outcomes := l.outcomes ++ [.ok s] }
  | (.error f, world) =>
    if f.isOfRules then { l with world, stage := .pausing, outcomes := l.outcomes ++ [.error f] }
    else { l with world, stage := .ended (some f) }

def go (r : Refresh) (l : Loop) : Loop :=
  match l.stage with
  | .looking => { l with stage := if l.stopped then .ended none else .fetching }
  | .fetching =>
    match Download.rulesInSession r.source l.world with
    | (.error f, world) => l.conclude (.error f, world)
    | (.ok document, world) =>
      if r.source.verifies then { l with world, stage := .verifying document } else l.conclude (r.keep document world)
  | .verifying document => l.conclude (r.verify document l.world)
  | .pausing => { l with stage := .looking }
  | .ended _ => l

def move (r : Refresh) (l : Loop) : Move → Loop
  | .go => l.go r
  | .stop => { l with stopped := true }

def after (r : Refresh) (moves : List Move) (l : Loop) : Loop := moves.foldl (move r) l

end Loop
end Untrack.Refresh
