/-
  Untrack.Text.Lower — the lower case of a text. Each letter goes to its lower case on its own, but for two:
  the dotted capital I becomes an i and a combining dot, and the capital sigma becomes the final sigma at the
  end of a word. A word ends where, marks and other passed-over characters aside, a letter stands before the
  sigma and none after it.
-/

import Untrack.Text.Basic
import Untrack.Unicode.Casing

namespace Untrack.Text
open Unicode

def isPassedOver (c : Char) : Bool := covers passedOverBounds c.toNat

def hasCase (c : Char) : Bool := covers casedBounds c.toNat

/-- Whether the first character that is not passed over has case. -/
def nextHasCase (t : Text) : Bool :=
  match t.dropWhile isPassedOver with
  | [] => false
  | c :: _ => hasCase c

/-- The lower case of a character between what was read before it, latest first, and what follows it. -/
def lowerChar (read : Text) (c : Char) (rest : Text) : Text :=
  if c.toNat = 0x130 then ['i', Char.ofNat 0x307]
  else if c.toNat = 0x3A3 then [Char.ofNat (if nextHasCase read && !nextHasCase rest then 0x3C2 else 0x3C3)]
  else [Char.ofNat (Unicode.lower c.toNat)]

def lowerAfter (read : Text) : Text → Text
  | [] => []
  | c :: r => lowerChar read c r ++ lowerAfter (c :: read) r

def lower (t : Text) : Text := lowerAfter [] t

end Untrack.Text
