/-
  Untrack.Pattern.Fault — why a pattern cannot be used. A mistake is something wrong with the pattern as
  written; it mostly has a position, which is shown with line and column when the pattern has several lines.
  Three faults are not mistakes of the pattern language but limits: a repetition count past the bound, a
  count with too many digits, and two sets of character classes asked for at once.
-/

import Untrack.Text.Quoted
import Untrack.Number.Numeral

namespace Untrack.Pattern

inductive Mistake
  | endsInEscape
  | missingName (what : String)
  | unterminatedName (terminator : Char)
  | badGroupName (name : Text)
  | incompleteEscape (written : Text)
  | missingBrace
  | unknownCharacterName (name : Text)
  | octalTooLarge (written : Text)
  | badEscape (written : Text)
  | openGroup
  | noSuchGroup (index : Nat)
  | groupInsideLookbehind
  | unterminatedSet
  | badRange (low high : Text)
  | countsReversed
  | nothingToRepeat
  | multipleRepeat
  | unexpectedEnd
  | unknownGroupName (name : Text)
  | unknownExtension (written : Text)
  | unterminatedComment
  | unterminatedGroup
  | groupZero
  | thirdBranch
  | lateFlags
  | nameTaken (name : Text) (index taken : Nat)
  | strayParenthesis
  | localeFlag
  | clashingFlags
  | unknownFlag
  | missingFlagEnd
  | missingFlag
  | missingColon
  | globalFlagOn
  | globalFlagOff
  | classFlagOff
  | flagOnAndOff
  | variableLookbehind
  | repeatInTemplate (operator : String)
  deriving DecidableEq, Repr

def Mistake.message : Mistake → String
  | .endsInEscape => "bad escape (end of pattern)"
  | .missingName what => "missing " ++ what
  | .unterminatedName terminator => "missing " ++ String.singleton terminator ++ ", unterminated name"
  | .badGroupName name => "bad character in group name " ++ name.quoted
  | .incompleteEscape written => "incomplete escape " ++ String.ofList written
  | .missingBrace => "missing \x7b"
  | .unknownCharacterName name => "undefined character name " ++ name.quoted
  | .octalTooLarge written => "octal escape value " ++ String.ofList written ++ " outside of range 0-0o377"
  | .badEscape written => "bad escape " ++ String.ofList written
  | .openGroup => "cannot refer to an open group"
  | .noSuchGroup index => "invalid group reference " ++ toString index
  | .groupInsideLookbehind => "cannot refer to group defined in the same lookbehind subpattern"
  | .unterminatedSet => "unterminated character set"
  | .badRange low high => "bad character range " ++ String.ofList low ++ "-" ++ String.ofList high
  | .countsReversed => "min repeat greater than max repeat"
  | .nothingToRepeat => "nothing to repeat"
  | .multipleRepeat => "multiple repeat"
  | .unexpectedEnd => "unexpected end of pattern"
  | .unknownGroupName name => "unknown group name " ++ name.quoted
  | .unknownExtension written => "unknown extension ?" ++ String.ofList written
  | .unterminatedComment => "missing ), unterminated comment"
  | .unterminatedGroup => "missing ), unterminated subpattern"
  | .groupZero => "bad group number"
  | .thirdBranch => "conditional backref with more than two branches"
  | .lateFlags => "global flags not at the start of the expression"
  | .nameTaken name index taken =>
    "redefinition of group name " ++ name.quoted ++ " as group " ++ toString index ++ "; was group " ++
      toString taken
  | .strayParenthesis => "unbalanced parenthesis"
  | .localeFlag => "bad inline flags: cannot use 'L' flag with a str pattern"
  | .clashingFlags => "bad inline flags: flags 'a', 'u' and 'L' are incompatible"
  | .unknownFlag => "unknown flag"
  | .missingFlagEnd => "missing -, : or )"
  | .missingFlag => "missing flag"
  | .missingColon => "missing :"
  | .globalFlagOn => "bad inline flags: cannot turn on global flag"
  | .globalFlagOff => "bad inline flags: cannot turn off global flag"
  | .classFlagOff => "bad inline flags: cannot turn off flags 'a', 'u' and 'L'"
  | .flagOnAndOff => "bad inline flags: flag turned on and off"
  | .variableLookbehind => "look-behind requires fixed-width pattern"
  | .repeatInTemplate operator => "internal: unsupported template operator " ++ operator

/-- A position in a pattern; line and column are given when the pattern has more than one line. -/
structure Place where
  position : Nat
  lineAndColumn : Option (Nat × Nat)
  deriving DecidableEq, Repr

def placeIn (source : Text) (position : Nat) : Place :=
  let read := source.take position
  ⟨position,
    if source.contains '\n' then
      some (read.count '\n' + 1, (read.reverse.takeWhile (· != '\n')).length + 1)
    else none⟩

def Place.message (p : Place) : String :=
  " at position " ++ toString p.position ++
    match p.lineAndColumn with
    | some (line, column) => " (line " ++ toString line ++ ", column " ++ toString column ++ ")"
    | none => ""

inductive Fault
  | mistake (m : Mistake) (place : Option Place)
  | countTooLarge
  | longCount (digits : Nat)
  | classesClash
  deriving DecidableEq, Repr

def Fault.message : Fault → String
  | .mistake m place => m.message ++ (place.map Place.message).getD ""
  | .countTooLarge => "the repetition number is too large"
  | .longCount n => Numeral.tooLongMessage n
  | .classesClash => "ASCII and UNICODE flags are incompatible"

end Untrack.Pattern
