/-
  Untrack.Server — the server that rules are fetched from: what it will answer. It answers requests for the
  rules and requests for their hash each from a list of their own, one response after the other; the last one
  stays. With nothing to answer it says 404.
-/

import Untrack.Bytes.Basic
import Untrack.Text.Basic

namespace Untrack

/-- What comes of a request. -/
inductive Response
  | reply (status : Int) (body : Bytes)
  /-- The network failed. -/
  | failure (reason : Text)
  deriving DecidableEq, Repr

structure Server where
  rules : List Response
  hash : List Response
  deriving DecidableEq, Repr

namespace Server

def silent : Server := ⟨[], []⟩

def notFound : Response := .reply 404 []

/-- The next of some responses, and those left after it. -/
def next : List Response → Response × List Response
  | [] => (notFound, [])
  | [r] => (r, [r])
  | r :: rest => (r, rest)

/-- Addresses that end in `hash` are those of hashes. -/
def isHashUrl (url : Text) : Bool := "hash".toList.isSuffixOf url

def answer (s : Server) (url : Text) : Response × Server :=
  if isHashUrl url then
    let (r, rest) := next s.hash
    (r, { s with hash := rest })
  else
    let (r, rest) := next s.rules
    (r, { s with rules := rest })

end Server
end Untrack
