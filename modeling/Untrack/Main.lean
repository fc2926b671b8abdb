/-
  Untrack.Main — the command line on this machine: settings from the environment, the cache from the disk, the time
  from the clock. There is no network here, so a download fails.
-/

import Std.Time.DateTime.Timestamp
import Untrack.Command.Basic
import Untrack.Settings.Basic

namespace Untrack

def variableNames : List String :=
  ["CLEARURLS_RULES_URL", "CLEARURLS_HASH_URL", "CLEARURLS_CACHE_PATH", "CLEARURLS_MAX_AGE_HOURS",
    "CLEARURLS_VERIFY_HASH", "CLEARURLS_REFRESH_INTERVAL_SECONDS", "SANITIZER_MAX_REDIRECT_DEPTH",
    "SANITIZER_HTTP_TIMEOUT_SECONDS"]

def readEnvironment : IO Settings.Environment := do
  let values ← variableNames.mapM fun name => return (name, ← IO.getEnv name)
  return fun name => ((values.lookup name).getD none).map (·.toList)

/-- What stands at the cache's path. -/
def readSpot (l : Location) : IO Cache.Spot := do
  try
    let path ← IO.FS.realPath (String.ofList l.path)
    let data ← path.metadata
    match data.type with
    | .file => return .file (← IO.FS.readBinFile path).toList data.modified.sec
    | _ => return .folder data.modified.sec
  catch _ => return .empty

def noNetwork : Server := ⟨[.failure "no network".toList], [.failure "no network".toList]⟩

def readWorld (l : Location) : IO World := do
  let now ← Std.Time.Timestamp.now
  return { World.start now.toSecondsSinceUnixEpoch.val noNetwork with shelf := ⟨← readSpot l, [], []⟩ }

def fail (message : String) : IO UInt32 := do
  IO.eprintln message
  return 1

def runCommand (settings : Settings) (arguments : List Text) : IO UInt32 := do
  match settings.store, Sanitizer.ofCap? settings.maxRedirectDepth with
  | .error f, _ => fail f.message
  | _, none => fail Sanitizer.capMessage
  | .ok store, some sanitizer =>
    let world ← readWorld store.location
    match (Command.run store sanitizer arguments).run ⟨world, .fresh⟩ with
    | (.error f, _) => fail f.message
    | (.ok report, _) =>
      IO.print report.output
      IO.eprint report.errors
      return report.code.toUInt32

end Untrack

def main (arguments : List String) : IO UInt32 := do
  match Untrack.Settings.ofEnvironment (← Untrack.readEnvironment) with
  | .error f => Untrack.fail f.message
  | .ok settings => Untrack.runCommand settings (arguments.map (·.toList))
