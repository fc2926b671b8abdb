/-
  Untrack.Store.Threads — one store asked from several threads at once. A call is taken apart where it looks at, or
  changes, what others see too: the cache, the clock, the server, what the store remembers and the lock (`Stage`).
  Calls take their steps in any order, and between any two of them something may happen to the world (`Move`).

  The lock is taken to download, never to read the cache. A call that waits for it stands still as long as another
  holds it.
-/

import Untrack.Store.Basic

namespace Untrack.Store

/-- How far a call has come: what it is about to do, with what it has found out so far. -/
inductive Stage
  /-- To ask the cache for its time and tell by it whether the cache is stale. -/
  | looking (locked : Bool)
  /-- To look at the clock, for the same. -/
  | judging (locked : Bool) (modified : Option Int)
  /-- To take the lock; a forced call then downloads without a second look. -/
  | waiting (forced : Bool)
  | fetching
  /-- To fetch the hash and verify the document by it. -/
  | verifying (document : Text)
  | keeping (document : Text) (rules : Ruleset)
  /-- To ask the cache for its time, with the document in it. -/
  | dating (rules : Ruleset)
  | remembering (locked : Bool) (rules : Ruleset) (modified : Option Int)
  /-- To give the lock back, and then to end or to load the cache. -/
  | releasing (outcome : Option (Except Fault Edition))
  /-- To ask the cache that is loaded for its time. -/
  | asking
  | recalling (modified : Option Int)
  | reading (modified : Option Int)
  | ended (outcome : Except Fault Edition)

def clock : Act Int := fun w => (.ok w.now, w)

namespace Stage

/-- Where a call begins: one for rules looks at the cache, one to download them goes for the lock. -/
def first (forced : Bool) : Stage := if forced then waiting true else looking false

def holdsLock : Stage → Bool
  | looking locked | judging locked _ | remembering locked _ _ => locked
  | fetching | verifying _ | keeping _ _ | dating _ | releasing _ => true
  | waiting _ | asking | recalling _ | reading _ | ended _ => false

/-- Does what a call is about to do; then it is at the next stage. -/
def next (st : Store) : Stage → Job Stage
  | looking locked => return judging locked (← Cache.modified? st.location)
  | judging locked modified => do
    if Cache.isOutdated st.maxAge (← clock) modified then
      return if locked then fetching else waiting false
    return if locked then releasing none else asking
  | waiting forced => return if forced then fetching else looking true
  | fetching => do
    let document ← Download.rules st.source
    if st.source.verifies then return verifying document
    return keeping document (← Ruleset.parse document)
  | verifying document => do
    let expected ← Download.hash st.source
    Act.ofExcept ((Download.verify document expected).mapError .fetch)
    return keeping document (← Ruleset.parse document)
  | keeping document rules => do
    Cache.writeText st.location document
    return dating rules
  | dating rules => return remembering true rules (← Cache.modified? st.location)
  | remembering locked rules modified => do
    let e ← remember rules modified
    return if locked then releasing (some (.ok e)) else ended (.ok e)
  | releasing none => return asking
  | releasing (some outcome) => return ended outcome
  | asking => return recalling (← Cache.modified? st.location)
  | recalling modified => do
    match (← memory).recall? modified with
    | some e => return ended (.ok e)
    | none => return reading modified
  | reading modified => do
    let document ← Cache.document st.location
    return remembering false (← Ruleset.parse document) modified
  | ended outcome => return ended outcome

/-- A fault ends a call, once it has given back the lock if it holds it. -/
def fail (g : Stage) (f : Fault) : Stage := if g.holdsLock then releasing (some (.error f)) else ended (.error f)

def step (st : Store) (g : Stage) (s : State) : Stage × State :=
  match g.next st s with
  | (.ok g', s') => (g', s')
  | (.error f, s') => (g.fail f, s')

end Stage

/-- What the threads share, and how far each call has come, in the order in which they began. -/
structure Threads where
  state : State
  calls : List Stage

inductive Move
  /-- A thread asks the store for rules, or tells it to download them. -/
  | call (forced : Bool)
  /-- A call takes its next step. -/
  | go (call : Nat)
  | change (change : Change)

namespace Threads

def start (s : State) : Threads := ⟨s, []⟩

/-- Whether a call can take its next step: another may hold the lock it waits for. -/
def canGo (t : Threads) : Stage → Bool
  | .waiting _ => t.calls.all (!·.holdsLock)
  | _ => true

def move (st : Store) (t : Threads) : Move → Threads
  | .call forced => { t with calls := t.calls ++ [.first forced] }
  | .go i =>
    match t.calls[i]? with
    | some g =>
      if t.canGo g then
        let (g, state) := g.step st t.state
        ⟨state, t.calls.set i g⟩
      else t
    | none => t
  | .change c => { t with state := { t.state with world := c.apply t.state.world } }

def after (st : Store) (moves : List Move) (t : Threads) : Threads := moves.foldl (move st) t

end Threads
end Untrack.Store
