/-
  Untrack.Settings.Basic — where rules come from and go to, how old they may grow, and the limits of cleaning and
  of requests. Each setting has a standard value that an environment variable overrides. The variables are read
  in the order of `ofEnvironment`, and the first that is not a number where one is wanted is the fault.
-/

import Untrack.Number.Numeral
import Untrack.Settings.Path
import Untrack.Store.Basic

namespace Untrack

structure Settings where
  rulesUrl : Text
  hashUrl : Text
  cachePath : Path
  maxAgeHours : Binary64
  verifiesHash : Bool
  refreshIntervalSeconds : Binary64
  maxRedirectDepth : Int
  timeoutSeconds : Binary64
  deriving DecidableEq, Repr

namespace Settings

inductive Fault
  | notReal (value : Text)
  | notWhole (value : Text)
  | tooLong (digits : Nat)
  deriving DecidableEq, Repr

/-- How much of a value that is not a whole number is shown. -/
def shownLength : Nat := 200

def Fault.message : Fault → String
  | .notReal value => "could not convert string to float: " ++ value.quoted
  | .notWhole value =>
    "invalid literal for int() with base 10: " ++ String.ofList (value.quotedText.take shownLength)
  | .tooLong digits => Numeral.tooLongMessage digits

/-- The environment: the value of each variable that is set. -/
abbrev Environment := String → Option Text

/-- The settings of an environment without variables. -/
def standard : Settings where
  rulesUrl := "https://rules2.clearurls.xyz/data.minify.json".toList
  hashUrl := "https://rules2.clearurls.xyz/rules.minify.hash".toList
  cachePath := ⟨[], ["artifacts".toList, "rules".toList, "data.minify.json".toList]⟩
  maxAgeHours := .ofDecimal false 24 0
  verifiesHash := false
  refreshIntervalSeconds := .ofDecimal false 21600 0
  maxRedirectDepth := 5
  timeoutSeconds := .ofDecimal false 30 0

def readReal (value : Text) : Except Fault Binary64 :=
  match Numeral.readReal? value with
  | some x => .ok x
  | none => .error (.notReal value)

def readWhole (value : Text) : Except Fault Int :=
  match Numeral.readWhole value with
  | .ok n => .ok n
  | .error .notANumber => .error (.notWhole value)
  | .error (.tooLong digits) => .error (.tooLong digits)

/-- The words that switch something on, in any case. -/
def isOn (value : Text) : Bool :=
  ["1".toList, "true".toList, "yes".toList, "on".toList].contains (Text.lower (Text.strip value))

/-- The variable's value as it is read, or the standard one when the variable is not set. -/
def setting (read : Text → Except Fault α) (standard : α) : Option Text → Except Fault α
  | none => .ok standard
  | some value => read value

def ofEnvironment (env : Environment) : Except Fault Settings := do
  let rulesUrl := (env "CLEARURLS_RULES_URL").getD standard.rulesUrl
  let hashUrl := (env "CLEARURLS_HASH_URL").getD standard.hashUrl
  let cachePath := ((env "CLEARURLS_CACHE_PATH").map Path.ofText).getD standard.cachePath
  let maxAgeHours ← setting readReal standard.maxAgeHours (env "CLEARURLS_MAX_AGE_HOURS")
  let verifiesHash := ((env "CLEARURLS_VERIFY_HASH").map isOn).getD standard.verifiesHash
  let refreshIntervalSeconds ←
    setting readReal standard.refreshIntervalSeconds (env "CLEARURLS_REFRESH_INTERVAL_SECONDS")
  let maxRedirectDepth ← setting readWhole standard.maxRedirectDepth (env "SANITIZER_MAX_REDIRECT_DEPTH")
  let timeoutSeconds ← setting readReal standard.timeoutSeconds (env "SANITIZER_HTTP_TIMEOUT_SECONDS")
  return { rulesUrl, hashUrl, cachePath, maxAgeHours, verifiesHash, refreshIntervalSeconds, maxRedirectDepth,
           timeoutSeconds }

def source (s : Settings) : Source := ⟨s.rulesUrl, s.hashUrl, s.verifiesHash⟩

def location (s : Settings) : Location := s.cachePath.location

/-- The store of these settings; their age limit may be too long to be one. -/
def store (s : Settings) : Except Duration.Fault Store := do
  return ⟨s.source, s.location, ← Duration.ofHours (.real s.maxAgeHours)⟩

end Settings
end Untrack
