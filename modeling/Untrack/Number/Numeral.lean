/-
  Untrack.Number.Numeral — numbers read from free text. White space around the number is dropped, digits of
  every script count as digits, and single underscores may stand between digits. A whole number is an
  optional sign and digits; a real number also has a fraction, an exponent, or is a spelling of infinity or
  of not-a-number. Whole numbers longer than `digitLimit` digits are refused as such.
-/

import Untrack.Text.Basic
import Untrack.Number.Binary64
import Untrack.Unicode.Word
import Untrack.Unicode.Blank

namespace Untrack.Numeral

def digitLimit : Nat := 4300

/-- White space around a number: the ASCII blanks but the information separators, and all blanks beyond. -/
def isMargin (c : Char) : Bool :=
  let n := c.toNat
  if n < 128 then (9 ≤ n && n ≤ 13) || n = 32 else Unicode.isBlank c

/-- Digits of every script as ASCII digits; what is neither ASCII nor a digit cannot be part of a number. -/
def plainChar (c : Char) : Char :=
  if c.toNat < 127 then c
  else if Unicode.isBlank c then ' '
  else match Unicode.digit? c with
    | some d => Char.ofNat (48 + d)
    | none => '?'

/-- The text without its underscores, each of which has to stand between two digits. -/
def withoutUnderscores (last : Char) : Text → Option Text
  | [] => if last = '_' then none else some []
  | c :: r =>
    if c = '_' then if last.isDigit then withoutUnderscores c r else none
    else if last = '_' ∧ !c.isDigit then none
    else (c :: ·) <$> withoutUnderscores c r

/-- What is left to read: margins off, digits plain, underscores out. -/
def cleaned (t : Text) : Option Text := withoutUnderscores ' ' ((Text.trimmed isMargin t).map plainChar)

def digitsValue (t : Text) : Nat := t.foldl (fun n c => n * 10 + (c.toNat - 48)) 0

/-- A leading sign, and whether it is a minus. -/
def signed : Text → Bool × Text
  | '-' :: r => (true, r)
  | '+' :: r => (false, r)
  | t => (false, t)

inductive WholeFault
  | notANumber
  | tooLong (digits : Nat)
  deriving DecidableEq, Repr

def tooLongMessage (digits : Nat) : String :=
  "Exceeds the limit (" ++ toString digitLimit ++ " digits) for integer string conversion: value has " ++
    toString digits ++ " digits; use sys.set_int_max_str_digits() to increase the limit"

/-- A run of ASCII digits as a number. -/
def ofDigits (t : Text) : Except WholeFault Nat :=
  if t.isEmpty || !t.all Char.isDigit then .error .notANumber
  else if digitLimit < t.length then .error (.tooLong t.length)
  else .ok (digitsValue t)

def readWhole (t : Text) : Except WholeFault Int :=
  match cleaned t with
  | none => .error .notANumber
  | some u =>
    let (negative, digits) := signed u
    (fun n : Nat => if negative then -(n : Int) else n) <$> ofDigits digits

def asciiLower (t : Text) : Text := t.map Char.toLower

def exponent? : Text → Option Int
  | [] => some 0
  | c :: r =>
    if c = 'e' ∨ c = 'E' then
      let (negative, digits) := signed r
      if digits.isEmpty || !digits.all Char.isDigit then none
      else some (if negative then -(digitsValue digits : Int) else digitsValue digits)
    else none

/-- Digits with an optional fraction and exponent; at least one digit has to stand before the exponent. -/
def unsignedReal? (negative : Bool) (t : Text) : Option Binary64 :=
  let whole := t.takeWhile Char.isDigit
  let (fraction, rest) := match t.dropWhile Char.isDigit with
    | '.' :: r => (r.takeWhile Char.isDigit, r.dropWhile Char.isDigit)
    | r => ([], r)
  if whole.isEmpty && fraction.isEmpty then none
  else (exponent? rest).map fun e => .ofDecimal negative (digitsValue (whole ++ fraction)) (e - fraction.length)

def readReal? (t : Text) : Option Binary64 := do
  let (negative, u) := signed (← cleaned t)
  let word := asciiLower u
  if word = ['i', 'n', 'f'] ∨ word = ['i', 'n', 'f', 'i', 'n', 'i', 't', 'y'] then some (.infinite negative)
  else if word = ['n', 'a', 'n'] then some .nan
  else unsignedReal? negative u

end Untrack.Numeral
