/-
  Untrack.Fault — what can go wrong with a job: fetching rules, reading them, using the cache, and cleaning a
  URL. Faults of fetching and of the rules are foreseen (`Fault.isOfRules`): whoever asked for rules is told that
  there are none. The others escape.
-/

import Untrack.Cache.Basic
import Untrack.Ruleset.Fault
import Untrack.Sanitizer

namespace Untrack

/-- Why rules could not be fetched or kept. -/
inductive FetchFault
  | network (url reason : Text)
  | status (url : Text) (status : Int)
  | notUtf8 (url : Text) (fault : Bytes.Fault)
  /-- The document is not the one whose hash is published. -/
  | hashMismatch (expected actual : Text)
  | unwritable (path : Text) (fault : Cache.Fault)
  | unreadable (path : Text) (fault : Cache.Fault)
  deriving DecidableEq, Repr

namespace FetchFault

def ofUrl (url : Text) (what : String) : String := "GET " ++ String.ofList url ++ what

def ofPath (doing : String) (path : Text) (fault : Cache.Fault) : String :=
  "Failed to " ++ doing ++ " rules cache " ++ String.ofList path ++ ": " ++ fault.message

def message : FetchFault → String
  | network url reason => ofUrl url (" failed: " ++ String.ofList reason)
  | status url n => ofUrl url (" returned HTTP " ++ toString n)
  | notUtf8 url f => ofUrl url (" returned a body that is not UTF-8: " ++ f.message)
  | hashMismatch expected actual =>
    "Rules hash mismatch: expected " ++ String.ofList expected ++ ", got " ++ String.ofList actual
  | unwritable path f => ofPath "write" path f
  | unreadable path f => ofPath "read" path f

end FetchFault

inductive Fault
  | fetch (fault : FetchFault)
  | rules (fault : Ruleset.Fault)
  | cache (fault : Cache.Fault)
  | cacheNotUtf8 (fault : Bytes.Fault)
  | clean (fault : CleanFault)
  deriving DecidableEq, Repr

namespace Fault

def message : Fault → String
  | fetch f => f.message
  | rules f => f.message
  | cache f => f.message
  | cacheNotUtf8 f => f.message
  | clean f => f.message

/-- Whether the fault is one of fetching or of the rules, as foreseen. -/
def isOfRules : Fault → Bool
  | fetch _ => true
  | rules f => f.isReported
  | _ => false

end Fault
end Untrack
