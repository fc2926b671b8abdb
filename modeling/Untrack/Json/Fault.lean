/-
  Untrack.Json.Fault — what can be wrong with the text of a document, and where: line and column count from
  one, the offset from zero. A whole number with too many digits is a fault of its own, without a place, and
  so are bytes that no encoding reads.
-/

import Untrack.Bytes.Basic
import Untrack.Number.Numeral

namespace Untrack.Json

inductive Problem
  | byteOrderMark
  | expectingValue
  | expectingName
  | expectingColon
  | expectingComma
  | extraData
  | controlCharacter
  | unterminatedText
  | badUnicodeEscape
  | badEscape
  deriving DecidableEq, Repr

def Problem.message : Problem → String
  | .byteOrderMark => "Unexpected UTF-8 BOM (decode using utf-8-sig)"
  | .expectingValue => "Expecting value"
  | .expectingName => "Expecting property name enclosed in double quotes"
  | .expectingColon => "Expecting ':' delimiter"
  | .expectingComma => "Expecting ',' delimiter"
  | .extraData => "Extra data"
  | .controlCharacter => "Invalid control character at"
  | .unterminatedText => "Unterminated string starting at"
  | .badUnicodeEscape => "Invalid \\uXXXX escape"
  | .badEscape => "Invalid \\escape"

structure Place where
  line : Nat
  column : Nat
  offset : Nat
  deriving DecidableEq, Repr

/-- The place of an offset: lines end at newlines. -/
def placeOf (document : Text) (offset : Nat) : Place :=
  let read := document.take offset
  ⟨read.count '\n' + 1, (read.reverse.takeWhile (· != '\n')).length + 1, offset⟩

inductive Fault
  | syntaxError (problem : Problem) (place : Place)
  | encoding (fault : Bytes.Fault)
  | longNumber (digits : Nat)
  deriving DecidableEq, Repr

def Fault.message : Fault → String
  | .syntaxError problem place =>
    problem.message ++ ": line " ++ toString place.line ++ " column " ++ toString place.column ++
      " (char " ++ toString place.offset ++ ")"
  | .encoding f => f.message
  | .longNumber n => Numeral.tooLongMessage n

end Untrack.Json
