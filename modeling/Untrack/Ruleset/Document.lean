/-
  Untrack.Ruleset.Document — from a rules document to a rule set. The first fault in document order is the one
  found; within a provider the fields are checked in the order of `Provider.ofValue?`, where the URL pattern
  is asked for first and compiled last. Patterns are written with doubled backslashes, which are undone before
  they are compiled.
-/

import Untrack.Ruleset.Basic
import Untrack.Ruleset.Fault
import Untrack.Json.Reader

namespace Untrack

open Json (Value Fields)

namespace Document

/-- A pattern text in which each pair of backslashes, from the left, is made one. -/
def unescape : Text → Text
  | '\\' :: '\\' :: r => '\\' :: unescape r
  | c :: r => c :: unescape r
  | [] => []

/-- The pattern of an entry. -/
def patternOfValue (field : Field) : Value → Except Provider.Fault Pattern
  | .text t => (Pattern.compile (unescape t)).mapError (.badPattern field t)
  | v => .error (.entryNotText field v.kind)

/-- The entries of a field; absent and null count as none. -/
def entries (field : Field) (fields : Fields) : Except Provider.Fault (List Value) :=
  match fields.get? field.key with
  | none => .ok []
  | some .null => .ok []
  | some (.list items) => .ok items
  | some _ => .error (.notAList field)

def patterns (field : Field) (fields : Fields) : Except Provider.Fault (List Pattern) := do
  (← entries field fields).mapM (patternOfValue field)

/-- The redirection of an entry, which needs a group for its target. -/
def redirectionOfValue (name : Text) (index : Nat) : Value → Except Provider.Fault Redirection
  | .text t => do
    let p ← patternOfValue .redirections (.text t)
    if p.groups = 0 then .error (.noGroup t)
    else return ⟨name ++ '#' :: (toString index).toList, p⟩
  | v => .error (.entryNotText .redirections v.kind)

def redirections (name : Text) (fields : Fields) : Except Provider.Fault (List Redirection) := do
  (← entries .redirections fields).zipIdx.mapM fun (v, index) => redirectionOfValue name index v

/-- Whether the provider blocks; it does not if the document does not say. -/
def completeness (fields : Fields) : Except Provider.Fault Bool :=
  match fields.get? "completeProvider".toList with
  | none => .ok false
  | some (.bool b) => .ok b
  | some _ => .error .completeNotBoolean

/-- The URL pattern's value, which has to be there and not void. -/
def urlPatternValue (fields : Fields) : Except Provider.Fault Value :=
  match fields.get? Field.urlPattern.key with
  | none => .error .noUrlPattern
  | some v => if v.isVoid then .error .noUrlPattern else .ok v

end Document

open Document in
def Provider.ofValue? (name : Text) : Value → Except Provider.Fault Provider
  | .object fields => do
    let url ← urlPatternValue fields
    let complete ← completeness fields
    let rules ← patterns .rules fields
    let referralMarketing ← patterns .referralMarketing fields
    let rawRules ← patterns .rawRules fields
    let exceptions ← patterns .exceptions fields
    let redirections ← Document.redirections name fields
    let urlPattern ← patternOfValue .urlPattern url
    return { name, urlPattern, complete, redirections, rules, referralMarketing, rawRules, exceptions }
  | v => .error (.notAnObject v.kind)

namespace Ruleset

def providersValue : Value → Except Fault Fields
  | .object fields =>
    match Fields.get? fields "providers".toList with
    | some (.object providers) => .ok providers
    | _ => .error .noProviders
  | _ => .error .rootNotAnObject

def providerOfField (f : Text × Value) : Except Fault Provider :=
  (Provider.ofValue? f.1 f.2).mapError (.provider f.1)

/-- The rule set of a decoded document. -/
def ofValue (v : Value) : Except Fault Ruleset := do
  let fields ← providersValue v
  let providers ← fields.mapM providerOfField
  (ofProviders providers).mapError .duplicateName

/-- The rule set of a document's text. -/
def ofText (t : Text) : Except Fault Ruleset := do
  ofValue (← (Json.read t).mapError .json)

/-- The rule set of a document's bytes, in whatever encoding they turn out to be. -/
def ofBytes (b : Bytes) : Except Fault Ruleset := do
  ofValue (← (Json.readBytes b).mapError .json)

end Ruleset
end Untrack
