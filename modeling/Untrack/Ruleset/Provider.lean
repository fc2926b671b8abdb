/-
  Untrack.Ruleset.Provider — what a rule set says about one group of URLs: which URLs it concerns, whether it
  blocks them, where in them their target is written, and what has to go from them.
-/

import Untrack.Pattern.Basic

namespace Untrack

/-- A pattern whose first group holds the address that a URL leads to. -/
structure Redirection where
  label : Text
  pattern : Pattern
  deriving DecidableEq, Repr

structure Provider where
  name : Text
  urlPattern : Pattern
  /-- A complete provider blocks every URL it concerns. -/
  complete : Bool
  redirections : List Redirection
  rules : List Pattern
  referralMarketing : List Pattern
  rawRules : List Pattern
  /-- Read and kept; cleaning does not look at them. -/
  exceptions : List Pattern
  deriving DecidableEq, Repr

/-- The patterns of query keys that have to go. -/
def Provider.removalPatterns (p : Provider) : List Pattern := p.rules ++ p.referralMarketing

def Provider.concerns (p : Provider) (url : Text) : Bool := p.urlPattern.matchesIn url

end Untrack
