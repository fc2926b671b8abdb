/-
  Untrack.Ruleset.Fault — what can be wrong with a rules document. Most faults are malformed documents or bad
  patterns and are reported as such (`Fault.isReported`). A few escape that: a number with too many digits, a
  repetition count past its bound, clashing character classes, and a name given to two providers.
-/

import Untrack.Json.Fault
import Untrack.Pattern.Fault

namespace Untrack

/-- The fields of a provider that hold patterns. -/
inductive Field
  | urlPattern
  | rules
  | referralMarketing
  | rawRules
  | exceptions
  | redirections
  deriving DecidableEq, Repr

def Field.name : Field → String
  | .urlPattern => "urlPattern"
  | .rules => "rules"
  | .referralMarketing => "referralMarketing"
  | .rawRules => "rawRules"
  | .exceptions => "exceptions"
  | .redirections => "redirections"

def Field.key (f : Field) : Text := f.name.toList

inductive Provider.Fault
  | notAnObject (kind : String)
  | noUrlPattern
  | completeNotBoolean
  | notAList (field : Field)
  | entryNotText (field : Field) (kind : String)
  | badPattern (field : Field) (pattern : Text) (fault : Pattern.Fault)
  /-- A redirection whose pattern has no group to hold the target. -/
  | noGroup (pattern : Text)
  deriving DecidableEq, Repr

/-- Whether a pattern is wrong as written, rather than past a limit. -/
def Pattern.Fault.isMistake : Pattern.Fault → Bool
  | .mistake _ _ => true
  | _ => false

def invalidPattern (provider : Text) (field : Field) (pattern : Text) (reason : String) : String :=
  "Provider " ++ provider.quoted ++ " has an invalid " ++ field.name ++ " pattern " ++ pattern.quoted ++ ": " ++
    reason

def Provider.Fault.message (provider : Text) : Provider.Fault → String
  | .notAnObject kind => "Provider " ++ provider.quoted ++ " must be an object, got " ++ kind
  | .noUrlPattern => "Provider " ++ provider.quoted ++ " is missing urlPattern"
  | .completeNotBoolean => "Provider " ++ provider.quoted ++ ": completeProvider must be a boolean"
  | .notAList field => "Provider " ++ provider.quoted ++ ": " ++ field.name ++ " must be a list"
  | .entryNotText field kind =>
    "Provider " ++ provider.quoted ++ ": " ++ field.name ++ " entries must be strings, got " ++ kind
  | .badPattern field pattern fault =>
    if fault.isMistake then invalidPattern provider field pattern fault.message else fault.message
  | .noGroup pattern => invalidPattern provider .redirections pattern "redirection needs a capture group"

namespace Ruleset

inductive Fault
  | json (fault : Json.Fault)
  | rootNotAnObject
  | noProviders
  | provider (name : Text) (fault : Provider.Fault)
  | duplicateName (name : Text)
  deriving DecidableEq, Repr

def Fault.message : Fault → String
  | .json (.longNumber n) => (Json.Fault.longNumber n).message
  | .json f => "Ruleset is not valid JSON: " ++ f.message
  | .rootNotAnObject => "Ruleset root must be an object"
  | .noProviders => "Ruleset has no providers object"
  | .provider name fault => fault.message name
  | .duplicateName name => "Duplicate provider name: " ++ String.ofList name

/-- Whether the fault is one of a pattern that is wrong as written. -/
def Fault.isBadPattern : Fault → Bool
  | .provider _ (.badPattern _ _ fault) => fault.isMistake
  | .provider _ (.noGroup _) => true
  | _ => false

/-- Whether the fault is reported as a malformed document or a bad pattern. -/
def Fault.isReported : Fault → Bool
  | .json (.longNumber _) => false
  | .provider _ (.badPattern _ _ fault) => fault.isMistake
  | .duplicateName _ => false
  | _ => true

end Ruleset
end Untrack
