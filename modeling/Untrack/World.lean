/-
  Untrack.World — what a job finds and changes outside itself: the clock, the cache and the server, and the
  requests made so far. An `Act` is done in a world. It gives a value or a fault, and what it changed stays
  changed after a fault.
-/

import Untrack.Fault
import Untrack.Server

namespace Untrack

/-- A request and what came of it. -/
structure Exchange where
  url : Text
  response : Response
  deriving DecidableEq, Repr

structure World where
  /-- The time in seconds. -/
  now : Int
  shelf : Cache.Shelf
  server : Server
  /-- The requests so far, the earliest first. -/
  exchanges : List Exchange
  deriving DecidableEq, Repr

namespace World

/-- A world with nothing in it but a server. -/
def start (now : Int) (server : Server) : World := ⟨now, .bare, server, []⟩

def requests (w : World) : List Text := w.exchanges.map (·.url)

/-- Asks the server for what is at an address. -/
def ask (url : Text) (w : World) : Response × World :=
  let (r, server) := w.server.answer url
  (r, { w with server, exchanges := w.exchanges ++ [⟨url, r⟩] })

end World

/-- The value or fault of a job with any kind of state, as a value. -/
def observe {σ : Type} (t : ExceptT Fault (StateM σ) α) : ExceptT Fault (StateM σ) (Except Fault α) := fun s =>
  let (r, s) := t s
  (.ok r, s)

abbrev Act (α : Type) := ExceptT Fault (StateM World) α

namespace Act

def ofExcept (r : Except Fault α) : Act α := ExceptT.mk (pure r)

/-- What the world says of its cache. -/
def ofShelf (f : Cache.Shelf → Except Cache.Fault α) : Act α := fun w => ((f w.shelf).mapError .cache, w)

end Act
end Untrack
