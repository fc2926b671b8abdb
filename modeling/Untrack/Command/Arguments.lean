/-
  Untrack.Command.Arguments — what the command line asks for: links and texts to clean, and whether to refresh the
  rules first. `--help` and `--refresh` may be cut short as long as it is clear which is meant. An argument that
  starts with a dash is an option, unless it is the dash alone, a number or has a space; after `--` nothing is an
  option. The texts have to stand together: those after a later option are not recognized, as are unknown
  options.
-/

import Untrack.Text.Quoted
import Untrack.Unicode.Word

namespace Untrack.Command

inductive Flag
  | help
  | refresh
  deriving DecidableEq, Repr

/-- The flag as messages name it. -/
def Flag.shown : Flag → String
  | .help => "-h/--help"
  | .refresh => "--refresh"

def longFlags : List (Text × Flag) := [("--help".toList, .help), ("--refresh".toList, .refresh)]

/-- What an argument is by its looks. -/
inductive Word
  | text (t : Text)
  /-- The first `--`. -/
  | divider
  | flag (f : Flag)
  /-- A flag with a value, as in `--refresh=1`. -/
  | valued (f : Flag) (value : Text)
  /-- `-h` with letters that follow it, or with a value. -/
  | short (letters : Text)
  | unknown (t : Text)
  deriving DecidableEq, Repr

inductive UsageFault
  | ambiguous (t : Text)
  | ignoredValue (f : Flag) (value : Text)
  | unrecognized (ts : List Text)
  deriving DecidableEq, Repr

def UsageFault.message : UsageFault → String
  | .ambiguous t => "ambiguous option: " ++ String.ofList t ++ " could match --help, --refresh"
  | .ignoredValue f value => "argument " ++ f.shown ++ ": ignored explicit argument " ++ value.quoted
  | .unrecognized ts => "unrecognized arguments: " ++ String.ofList ([' '].intercalate ts)

/-- Whether what follows a dash is a number: digits, or a point between digits; the first ones may be missing. -/
def isNumber (t : Text) : Bool :=
  let rest := t.dropWhile Unicode.isDigit
  if rest.isEmpty then !t.isEmpty
  else match rest with
    | '.' :: fraction => !fraction.isEmpty && fraction.all Unicode.isDigit
    | _ => false

/-- A text without one newline at its end. -/
def withoutNewline (t : Text) : Text := if t.getLast? = some '\n' then t.dropLast else t

/-- The flag of a name, with the value if there is one. -/
def flagWord (f : Flag) : Option Text → Word
  | none => .flag f
  | some value => .valued f value

/-- An argument with a dash that is no flag as written. -/
def unknownWord (t : Text) : Word :=
  if isNumber (withoutNewline t.tail) || t.contains ' ' then .text t else .unknown t

/-- An argument that starts with two dashes. -/
def longWord (t : Text) : Except UsageFault Word :=
  let name := t.before '='
  match longFlags.lookup name, longFlags.filter fun f => f.1.startsWith name with
  | some f, _ => .ok (flagWord f (t.after? '='))
  | none, [] => .ok (unknownWord t)
  | none, [f] => .ok (flagWord f.2 (t.after? '='))
  | none, _ => .error (.ambiguous t)

/-- An argument that starts with one dash; the value of `-h` may follow it at once or after an equals sign. -/
def shortWord : Text → Word
  | '-' :: 'h' :: [] => .flag .help
  | '-' :: 'h' :: '=' :: value => .short value
  | '-' :: 'h' :: letters => .short letters
  | t => unknownWord t

def wordOf : Text → Except UsageFault Word
  | '-' :: '-' :: t => longWord ('-' :: '-' :: t)
  | '-' :: c :: t => .ok (shortWord ('-' :: c :: t))
  | t => .ok (.text t)

def words : List Text → Except UsageFault (List Word)
  | [] => .ok []
  | a :: rest =>
    if a = ['-', '-'] then .ok (.divider :: rest.map .text)
    else do return (← wordOf a) :: (← words rest)

/-- Texts and flags as read so far: the texts once they have been met, and what was not recognized. -/
structure Reading where
  texts : Option (List Text)
  refresh : Bool
  unrecognized : List Text
  deriving DecidableEq, Repr

/-- A run of texts: the first one is taken, without its first `--`. -/
def Reading.takeRun (r : Reading) (run : List Text) : Reading :=
  match r.texts with
  | none => { r with texts := some (run.erase ['-', '-']) }
  | some _ => { r with unrecognized := r.unrecognized ++ run }

inductive Request
  | help
  | clean (refresh : Bool) (texts : List Text)
  deriving DecidableEq, Repr

/-- Letters after `-h` that are nothing but more of it ask for help. -/
def shortFlags (letters : Text) : Except UsageFault Request :=
  let rest := letters.dropWhile (· == 'h')
  if letters.isEmpty || !rest.isEmpty then .error (.ignoredValue .help rest) else .ok .help

/-- Goes through the words; `run` is the run of texts under way. -/
def readWords (r : Reading) (run : List Text) : List Word → Except UsageFault Request
  | [] =>
    let r := if run.isEmpty then r else r.takeRun run
    if r.unrecognized.isEmpty then .ok (.clean r.refresh (r.texts.getD [])) else .error (.unrecognized r.unrecognized)
  | w :: rest =>
    let ended := if run.isEmpty then r else r.takeRun run
    match w with
    | .text t => readWords r (run ++ [t]) rest
    | .divider => readWords r (run ++ [['-', '-']]) rest
    | .flag .refresh => readWords { ended with refresh := true } [] rest
    | .flag .help => .ok .help
    | .valued f value => .error (.ignoredValue f value)
    | .short letters => shortFlags letters
    | .unknown t => readWords { ended with unrecognized := ended.unrecognized ++ [t] } [] rest

def Request.ofArguments (arguments : List Text) : Except UsageFault Request := do
  readWords ⟨none, false, []⟩ [] (← words arguments)

end Untrack.Command
