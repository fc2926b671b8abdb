/-
  Untrack.Download — fetching the rules and their published hash. Bodies are UTF-8. A download that fails is not
  tried again. The hash is published in either case and with white space around it. The rules are then read from
  the document, as they are from one in the cache (`Ruleset.parse`).

  A store waits for a response as a whole (`fetch`). The loop that keeps the cache fresh fetches in a session, where
  the status of a response is there before its body (`fetchInSession`).
-/

import Untrack.World
import Untrack.Bytes.Digest
import Untrack.Bytes.Utf8
import Untrack.Ruleset.Document
import Untrack.Text.Lower
import Untrack.Text.Strip

namespace Untrack

/-- Where rules come from, and whether they are checked against their published hash. -/
structure Source where
  rulesUrl : Text
  hashUrl : Text
  verifies : Bool
  deriving DecidableEq, Repr

namespace Download

/-- The text of a response. -/
def textOf (url : Text) : Response → Except FetchFault Text
  | .failure reason => .error (.network url reason)
  | .reply status body =>
    if status = 200 then (Bytes.Utf8.decode body).mapError (.notUtf8 url) else .error (.status url status)

/-- The text at an address. -/
def fetch (url : Text) : Act Text := fun w =>
  let (r, w) := w.ask url
  ((textOf url r).mapError .fetch, w)

/-- The body at an address, read in a session only if the status is good. -/
def receive (url : Text) : Act Bytes := fun w =>
  match w.ask url with
  | (.failure reason, w) => (.error (.fetch (.network url reason)), w)
  | (.reply status body, w) => (if status ≠ 200 then .error (.fetch (.status url status)) else .ok body, w)

/-- The text at an address, fetched in a session. -/
def fetchInSession (url : Text) : Act Text := do
  let body ← receive url
  .ofExcept ((Bytes.Utf8.decode body).mapError fun f => .fetch (.notUtf8 url f))

/-- A hash as it is compared. -/
def plainHash (t : Text) : Text := Text.lower (Text.strip t)

def rules (s : Source) : Act Text := fetch s.rulesUrl

def hash (s : Source) : Act Text := return plainHash (← fetch s.hashUrl)

def rulesInSession (s : Source) : Act Text := fetchInSession s.rulesUrl

def hashInSession (s : Source) : Act Text := return plainHash (← fetchInSession s.hashUrl)

/-- The hash of a document, in hexadecimal. -/
def hashOf (document : Text) : Text := Bytes.sha256 (Bytes.Utf8.encode document)

/-- Refuses a document that does not have the expected hash. -/
def verify (document expected : Text) : Except FetchFault Unit :=
  if hashOf document = plainHash expected then .ok () else .error (.hashMismatch expected (hashOf document))

end Download

/-- The rules in a document, whether it was fetched or kept. -/
def Ruleset.parse (document : Text) : Act Ruleset := .ofExcept ((ofText document).mapError .rules)

end Untrack
