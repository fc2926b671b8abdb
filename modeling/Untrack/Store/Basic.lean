/-
  Untrack.Store.Basic — the store hands out the rules in the cache, and downloads them anew when the cache is
  missing or older than allowed. A document is checked and read before it takes the cache's place. There is
  nothing to fall back on: when a download or the cache fails, so does the job, and the cache stays as it was.

  Rules once read are remembered together with the time at which the cache they are from was modified, and are
  handed out again as long as the cache bears that time. Each reading makes a new edition, so an edition handed
  out again can be told from one read again.

  A job asks the cache for its time twice and takes a lock in between. Others may be at work meanwhile: one may
  write the cache just as the lock is taken, or between a download's own writing and its asking for the time,
  and one may complete a download just after the cache was asked for its time (`Meanwhile`). Any number of calls, in
  whatever order they take their steps, are in Untrack.Store.Threads.
-/

import Untrack.Cache.Document
import Untrack.Download
import Untrack.World.Change

namespace Untrack

structure Store where
  source : Source
  location : Location
  maxAge : Duration
  deriving DecidableEq, Repr

/-- Rules as read once. -/
structure Edition where
  serial : Nat
  rules : Ruleset
  deriving DecidableEq, Repr

/-- The edition read last with the time of the cache it is from, and how many editions there have been. -/
structure Memory where
  latest : Option (Edition × Option Int)
  editions : Nat
  deriving DecidableEq, Repr

def Memory.fresh : Memory := ⟨none, 0⟩

/-- The edition remembered for a cache modified at a time. -/
def Memory.recall? (m : Memory) (modified : Option Int) : Option Edition :=
  match m.latest with
  | some (e, t) => if modified.isSome && t == modified then some e else none
  | none => none

/-- A world and what one store remembers in it. -/
structure State where
  world : World
  memory : Memory
  deriving DecidableEq, Repr

def State.start (now : Int) (server : Server) : State := ⟨.start now server, .fresh⟩

/-- A job of a store. -/
abbrev Job (α : Type) := ExceptT Fault (StateM State) α

/-- An act as a job that remembers nothing of it. -/
def Job.ofAct (t : Act α) : Job α := fun s =>
  let (r, world) := t s.world
  (r, { s with world })

instance : MonadLift Act Job := ⟨Job.ofAct⟩

/-- What others do while a job is under way. -/
structure Meanwhile where
  writtenAtLock : Option ForeignFile
  writtenAfterWriting : Option ForeignFile
  downloadedAfterAsking : Bool
  deriving DecidableEq, Repr

def Meanwhile.nothing : Meanwhile := ⟨none, none, false⟩

namespace Store

def othersWrite (f : Option ForeignFile) : Act Unit :=
  modify fun w => (f.map fun f => (Change.write f).apply w).getD w

def memory : Job Memory := fun s => (.ok s.memory, s)

/-- Makes an edition of rules and remembers it for a cache modified at a time. -/
def remember (rules : Ruleset) (modified : Option Int) : Job Edition := fun s =>
  let e : Edition := ⟨s.memory.editions, rules⟩
  (.ok e, { s with memory := ⟨some (e, modified), s.memory.editions + 1⟩ })

def isStale (st : Store) : Act Bool := Cache.isStale st.location st.maxAge

/-- Downloads the rules, with the lock held. -/
def download (st : Store) (m : Meanwhile) : Job Edition := do
  let document ← Download.rules st.source
  if st.source.verifies then
    let expected ← Download.hash st.source
    Act.ofExcept ((Download.verify document expected).mapError .fetch)
  let rules ← Ruleset.parse document
  Cache.writeText st.location document
  othersWrite m.writtenAfterWriting
  remember rules (← Cache.modified? st.location)

def refreshAmid (st : Store) (m : Meanwhile) : Job Edition := do
  othersWrite m.writtenAtLock
  st.download m

/-- Downloads the rules, however fresh the cache is. -/
def refresh (st : Store) : Job Edition := st.refreshAmid .nothing

/-- The rules in the cache, read only if the edition remembered is not of this cache. -/
def load (st : Store) (m : Meanwhile) : Job Edition := do
  let modified ← Cache.modified? st.location
  if m.downloadedAfterAsking then discard st.refresh
  match (← memory).recall? modified with
  | some e => return e
  | none =>
    let document ← Cache.document st.location
    remember (← Ruleset.parse document) modified

/-- The rules, downloaded first if the cache is still stale once the lock is taken. -/
def getAmid (st : Store) (m : Meanwhile) : Job Edition := do
  if ← st.isStale then
    othersWrite m.writtenAtLock
    if ← st.isStale then return ← st.download m
  st.load m

/-- The rules. -/
def get (st : Store) : Job Edition := st.getAmid .nothing

end Store
end Untrack
