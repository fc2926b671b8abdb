/-
  Untrack.Store.Run — the life of a store: steps, taken one after the other in one world. A step that fails does
  not end the run. After each step the run tells what came of it, which requests it made, and how the world
  looks.
-/

import Untrack.Refresh
import Untrack.Store.Clean

namespace Untrack.Store

inductive Step
  | get (meanwhile : Meanwhile)
  | refresh
  | runOnce
  | runRounds (rounds : Nat)
  | clean (sanitizer : Sanitizer) (url : Text)
  | message (sanitizer : Sanitizer) (text : Text)
  | fetchRules
  | fetchHash
  | put (document : Text)
  | read
  | present
  | modified
  | stale (maxAge : Duration) (now : Option Int)
  | change (change : Change)

/-- What a step gives. -/
inductive Answer
  | edition (e : Edition)
  | summary (s : Refresh.Summary)
  | rounds (outcomes : List (Except Fault Refresh.Summary))
  | result (r : Sanitizer.Result)
  | links (results : List LinkResult)
  | text (t : Text)
  | truth (b : Bool)
  | time (t : Option Int)
  | nothing

/-- Whether the cache is stale at a time, or now. -/
def isStaleAt (st : Store) (maxAge : Duration) : Option Int → Act Bool
  | some now => Cache.isStaleAt st.location maxAge now
  | none => Cache.isStale st.location maxAge

def take (st : Store) : Step → Job Answer
  | .get m => return .edition (← st.getAmid m)
  | .refresh => return .edition (← st.refresh)
  | .runOnce => return .summary (← st.refresher.runOnce)
  | .runRounds n => return .rounds (← st.refresher.runRounds n)
  | .clean s url => return .result (← st.cleanUrl s url)
  | .message s text => return .links (← st.cleanMessage s text)
  | .fetchRules => return .text (← Download.rules st.source)
  | .fetchHash => return .text (← Download.hash st.source)
  | .put document => do
    Cache.writeText st.location document
    return .text st.location.path
  | .read => return .text (← Cache.readText st.location)
  | .present => return .truth (← Cache.exists?)
  | .modified => return .time (← Cache.modified? st.location)
  | .stale maxAge now => return .truth (← st.isStaleAt maxAge now)
  | .change c => fun s => (.ok .nothing, { s with world := c.apply s.world })

structure Report where
  outcome : Except Fault Answer
  /-- The requests this step made. -/
  requests : List Text
  now : Int
  shelf : Cache.Shelf

def report (st : Store) (step : Step) (s : State) : Report × State :=
  let (outcome, after) := st.take step s
  (⟨outcome, after.world.requests.drop s.world.requests.length, after.world.now, after.world.shelf⟩, after)

/-- The reports of a run, and the state it leads to. -/
def run (st : Store) : List Step → State → List Report × State
  | [], s => ([], s)
  | step :: steps, s =>
    let (first, s) := st.report step s
    let (rest, s) := st.run steps s
    (first :: rest, s)

end Untrack.Store
