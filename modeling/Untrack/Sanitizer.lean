/-
  Untrack.Sanitizer — cleaning a URL by a rule set.

  The providers are taken in order. One that concerns the URL as it stands by then is noted. If it is complete
  the URL is blocked and nothing else happens. Otherwise its redirections are looked for in the URL as it
  stands; the target of each is cleaned in turn, one level deeper, and takes the URL's place, so the last one
  counts. Then the query loses its tracking parameters and the URL everything its raw rules match. A target
  that is blocked blocks the URL it was found in. In the end one trailing `?` and then one trailing `/` go.

  Levels are limited: `cap` is the deepest one, and a target below it is a fault.
-/

import Untrack.Query
import Untrack.Ruleset.Basic

namespace Untrack

/-- Why cleaning a URL fails. -/
inductive CleanFault
  | invalidUrl (url : Text) (reason : Url.Refusal)
  | redirectLoop (url : Text) (cap : Nat)
  /-- A redirection without a group to hold its target. -/
  | noGroup
  deriving DecidableEq, Repr

def CleanFault.message : CleanFault → String
  | .invalidUrl url reason => reason.message ++ ": " ++ url.quoted
  | .redirectLoop url cap =>
    "Redirect depth exceeded " ++ toString cap ++ " while resolving " ++ url.quoted
  | .noGroup => "no such group"

/-- The name of a fault. -/
def CleanFault.name : CleanFault → String
  | .invalidUrl _ _ => "InvalidUrlError"
  | .redirectLoop _ _ => "RedirectLoopError"
  | .noGroup => "IndexError"

/-- A fault as it is reported beside a link. -/
def CleanFault.report (f : CleanFault) : String := f.name ++ ": " ++ f.message

/-- Whether the fault is one of the URL, rather than of a rule set put together by hand. -/
def CleanFault.isOfUrl : CleanFault → Bool
  | .noGroup => false
  | _ => true

/-- The URL that was arrived at, the names of the providers that concerned it, in the order in which they were
noted, and whether one of them blocked it. -/
structure Visit where
  url : Text
  matched : List Text
  blocked : Bool
  deriving DecidableEq, Repr

namespace Sanitizer

def dropLastIf (c : Char) (t : Text) : Text := if t.getLast? = some c then t.dropLast else t

/-- A text without one trailing `?` and then without one trailing `/`. -/
def trim (t : Text) : Text := dropLastIf '/' (dropLastIf '?' t)

/-- The decoded target of a redirection in a URL. -/
def target? (r : Redirection) (url : Text) : Except CleanFault (Option Text) :=
  match r.pattern.find? url with
  | none => .ok none
  | some m =>
    match m.group? url 1 with
    | none => .error .noGroup
    | some g => .ok (g.map Url.Percent.decode)

/-- Follows the redirections found in `source`; `soFar` is what the earlier ones led to. -/
def followAll (follow : Text → Except CleanFault Visit) (source : Text) :
    List Redirection → (soFar : Visit) → Except CleanFault Visit
  | [], v => .ok v
  | r :: rs, v => do
    match ← target? r source with
    | none => followAll follow source rs v
    | some target =>
      let w ← follow target
      let next : Visit := { w with matched := v.matched ++ w.matched }
      if w.blocked then return next else followAll follow source rs next

def cleanQuery (p : Provider) (url : Text) : Except CleanFault Text :=
  (Query.clean p.removalPatterns url).mapError (.invalidUrl url)

def deleteRaw (p : Provider) (url : Text) : Text := p.rawRules.foldl (fun u r => r.delete u) url

/-- What one provider that concerns a URL makes of it. -/
def apply (follow : Text → Except CleanFault Visit) (p : Provider) (url : Text) : Except CleanFault Visit := do
  if p.complete then return ⟨[], [p.name], true⟩
  let v ← followAll follow url p.redirections ⟨url, [p.name], false⟩
  if v.blocked then return { v with url := [] }
  let u ← cleanQuery p v.url
  return { v with url := deleteRaw p u }

/-- What the providers make of a URL, one after the other. -/
def visit (follow : Text → Except CleanFault Visit) : List Provider → (url : Text) → Except CleanFault Visit
  | [], url => .ok ⟨trim url, [], false⟩
  | p :: ps, url => do
    if !p.concerns url then visit follow ps url
    else
      let v ← apply follow p url
      if v.blocked then return v
      let w ← visit follow ps v.url
      return { w with matched := v.matched ++ w.matched }

/-- Cleans a URL with `room` levels left, this one included. -/
def resolve (rules : Ruleset) (cap : Nat) : (room : Nat) → (url : Text) → Except CleanFault Visit
  | 0, url => .error (.redirectLoop url cap)
  | room + 1, url => visit (resolve rules cap room) rules.providers url

end Sanitizer

/-- How deep redirections may lead. -/
structure Sanitizer where
  cap : Nat
  deriving DecidableEq, Repr

namespace Sanitizer

def standard : Sanitizer := ⟨5⟩

/-- A sanitizer with a cap, which may not be negative. -/
def ofCap? (cap : Int) : Option Sanitizer := if cap < 0 then none else some ⟨cap.toNat⟩

def capMessage : String := "max_depth must be >= 0"

inductive Outcome
  | unchanged
  | cleaned
  | blocked
  deriving DecidableEq, Repr

def Outcome.name : Outcome → String
  | .unchanged => "unchanged"
  | .cleaned => "cleaned"
  | .blocked => "blocked"

/-- A URL as it was and as it is after cleaning. -/
structure Result where
  outcome : Outcome
  before : Text
  url : Text
  matched : List Text
  deriving DecidableEq, Repr

def Result.changed (r : Result) : Bool := r.outcome == .cleaned

def Result.blocked (r : Result) : Bool := r.outcome == .blocked

/-- The cleaned URL, starting at a depth; blocked URLs are empty. -/
def clean (s : Sanitizer) (url : Text) (rules : Ruleset) (depth : Int) : Except CleanFault Text := do
  let v ← resolve rules s.cap (s.cap + 1 - depth).toNat url
  return v.url

/-- A visited URL counts as cleaned only if a provider concerned it and it differs from what it was. -/
def outcomeOf (before : Text) (v : Visit) : Outcome :=
  if v.blocked then .blocked
  else if v.matched.isEmpty || v.url == before then .unchanged
  else .cleaned

/-- Cleans a URL and says what became of it. -/
def sanitize (s : Sanitizer) (url : Text) (rules : Ruleset) : Except CleanFault Result := do
  let v ← resolve rules s.cap (s.cap + 1) url
  return ⟨outcomeOf url v, url, if v.blocked then [] else v.url, v.matched⟩

end Sanitizer
end Untrack
