/-
  Untrack.Command.Basic — the command line: refreshes the rules if asked to, then cleans the links in its
  arguments and prints a line for each. What goes wrong with the rules is told as an error and ends the command
  with code 1; wrong arguments end it with code 2.
-/

import Untrack.Command.Arguments
import Untrack.Store.Clean
import Untrack.Refresh

namespace Untrack.Command

/-- What the command prints, and the code it ends with. -/
structure Report where
  code : Nat
  output : String
  errors : String
  deriving DecidableEq, Repr

def program : String := "python -m src.sanitization"

def usage : String := "usage: " ++ program ++ " [-h] [--refresh] [links ...]\n"

def help : String :=
  usage ++ "\nStrip tracking from URLs.\n\n" ++
    "positional arguments:\n" ++
    "  links       URLs or free text containing URLs\n\n" ++
    "options:\n" ++
    "  -h, --help  show this help message and exit\n" ++
    "  --refresh   download the ruleset before cleaning\n"

def usageError (f : UsageFault) : Report := ⟨2, "", usage ++ program ++ ": error: " ++ f.message ++ "\n"⟩

/-- The line for a link. -/
def line (r : LinkResult) : String :=
  match r.result with
  | .error f => String.ofList r.link ++ "\t[error] " ++ f.report ++ "\n"
  | .ok c =>
    if c.blocked then String.ofList r.link ++ "\t[blocked]\n" else String.ofList c.url ++ "\n"

def lines (results : List LinkResult) : String := String.join (results.map line)

def refreshed (s : Refresh.Summary) : String :=
  "rules: " ++ toString s.providers ++ " providers -> " ++ String.ofList s.path ++ "\n"

/-- Refreshes the rules if asked to, and tells so. -/
def refreshFirst (r : Refresh) (wanted : Bool) : Act String :=
  if wanted then return refreshed (← r.runOnce) else return ""

/-- Ends the command for a fault of the rules, after what it has printed already; other faults escape. -/
def failed (printed : String) (f : Fault) : Job Report :=
  if f.isOfRules then return ⟨1, printed, "error: " ++ f.message ++ "\n"⟩ else throw f

def clean (st : Store) (s : Sanitizer) (refresh : Bool) (texts : List Text) : Job Report := do
  match ← observe (Job.ofAct (refreshFirst st.refresher refresh)) with
  | .error f => failed "" f
  | .ok printed =>
    match ← observe (st.cleanMessage s (['\n'].intercalate texts)) with
    | .error f => failed printed f
    | .ok results => return ⟨0, printed ++ lines results, ""⟩

/-- Runs the command with its arguments. -/
def run (st : Store) (s : Sanitizer) (arguments : List Text) : Job Report :=
  match Request.ofArguments arguments with
  | .error f => return usageError f
  | .ok .help => return ⟨0, help, ""⟩
  | .ok (.clean refresh texts) => clean st s refresh texts

end Untrack.Command
