/-
  Untrack.Query — parameters of a query: the segments between ampersands, each with a key before its first
  equals sign. Keys are compared as they are meant, percent-decoded and in lower case, whatever their spelling.
  Dropping parameters keeps the others, verbatim and in order; a URL from which nothing is dropped is returned
  as it came.
-/

import Untrack.Pattern.Basic
import Untrack.Text.Lower
import Untrack.Url.Basic
import Untrack.Url.Percent

namespace Untrack

/-- Why a URL is refused as it stands. -/
inductive Url.Refusal
  | unreadable (fault : Url.Fault)
  /-- There is no scheme or no host. -/
  | notWellFormed
  deriving DecidableEq, Repr

def Url.Refusal.message : Url.Refusal → String
  | .unreadable f => f.message
  | .notWellFormed => "not a well-formed URL"

/-- The parts of a URL that has a scheme and a host. -/
def Url.wellFormed (url : Text) : Except Url.Refusal Url.Parts := do
  let p ← (Url.split url).mapError .unreadable
  if p.scheme.isEmpty || p.authority.isEmpty then .error .notWellFormed else return p

namespace Query

def segments (query : Text) : List Text := query.pieces (· == '&')

def ofSegments (segments : List Text) : Text := ['&'].intercalate segments

/-- The key of a segment, as it is meant. -/
def key (segment : Text) : Text := Text.lower (Url.Percent.decodeForm (segment.before '='))

def isTracking (patterns : List Pattern) (segment : Text) : Bool := patterns.any (·.matchesIn (key segment))

/-- Whether a segment stays. -/
def isKept (patterns : List Pattern) (segment : Text) : Bool := !segment.isEmpty && !isTracking patterns segment

/-- A URL without the parameters that match one of the patterns. -/
def clean (patterns : List Pattern) (url : Text) : Except Url.Refusal Text := do
  let parts ← Url.wellFormed url
  if parts.query.isEmpty || patterns.isEmpty then return url
  let all := segments parts.query
  let kept := all.filter (isKept patterns)
  if kept.length = all.length then return url
  return { parts with query := ofSegments kept }.render

end Query
end Untrack
