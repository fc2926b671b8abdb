/-
  Untrack.Message — the links of a chat message, and cleaning all of them. Links are the words between spaces
  and newlines that start with `http://` or `https://`. Each link is cleaned on its own: a link that cannot be
  cleaned keeps its fault and stays as it was.
-/

import Untrack.Sanitizer

namespace Untrack

namespace Message

def isSeparator (c : Char) : Bool := c == ' ' || c == '\n'

def isLink (t : Text) : Bool :=
  t.startsWith ['h', 't', 't', 'p', 's', ':', '/', '/'] || t.startsWith ['h', 't', 't', 'p', ':', '/', '/']

/-- The links of a text, in order and with repetitions. -/
def links (t : Text) : List Text := (t.pieces isSeparator).filter isLink

end Message

/-- A link of a message and what came of cleaning it. -/
structure LinkResult where
  link : Text
  result : Except CleanFault Sanitizer.Result

namespace LinkResult

def error? (r : LinkResult) : Option String :=
  match r.result with
  | .ok _ => none
  | .error f => some f.report

def isOk (r : LinkResult) : Bool := r.error?.isNone

/-- The URL to show: the cleaned one, or the link itself if it could not be cleaned. -/
def finalUrl (r : LinkResult) : Text :=
  match r.result with
  | .ok c => c.url
  | .error _ => r.link

/-- The cleaned URL of a link that cleaning changed. -/
def changed? (r : LinkResult) : Option Text :=
  match r.result with
  | .ok c => if c.changed then some c.url else none
  | .error _ => none

end LinkResult

namespace Message

/-- Cleans a link. A fault of its URL stays with it; any other is not its own. -/
def cleanLink (s : Sanitizer) (rules : Ruleset) (link : Text) : Except CleanFault LinkResult :=
  match s.sanitize link rules with
  | .ok r => .ok ⟨link, .ok r⟩
  | .error f => if f.isOfUrl then .ok ⟨link, .error f⟩ else .error f

def cleanLinks (s : Sanitizer) (rules : Ruleset) (found : List Text) : Except CleanFault (List LinkResult) :=
  found.mapM (cleanLink s rules)

/-- Cleans the links of a message. The rules are asked for once, and only if there is a link. -/
def clean [Monad m] (ask : m Ruleset) (s : Sanitizer) (message : Text) :
    m (Except CleanFault (List LinkResult)) :=
  match links message with
  | [] => return .ok []
  | found => return cleanLinks s (← ask) found

/-- The URLs that cleaning changed, to be posted in place of the links. -/
def changed (results : List LinkResult) : List Text := results.filterMap (·.changed?)

end Message
end Untrack
