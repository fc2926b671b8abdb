/-
  Untrack.Proofs.Ruleset.Handmade — providers put together by hand, from the texts of their patterns: a way to name
  rule sets in statements about given ones.
-/

import Untrack.Ruleset.Basic

namespace Untrack

/-- The pattern with a source; one that matches everywhere if the source is no pattern. -/
def Pattern.ofSource (source : String) : Pattern :=
  match compile source.toList with
  | .ok p => p
  | .error _ => ⟨source.toList, .nothing, 0⟩

/-- A provider that concerns the URLs in which a pattern is found, and does nothing to them. -/
def Provider.concerning (name pattern : String) : Provider where
  name := name.toList
  urlPattern := .ofSource pattern
  complete := false
  redirections := []
  rules := []
  referralMarketing := []
  rawRules := []
  exceptions := []

end Untrack
