/-
  Untrack.Url.Percent — percent encoding. `%` and two hexadecimal digits stand for a byte; any other `%` is
  kept. The bytes of each stretch of ASCII text are read as UTF-8, and bytes that are no UTF-8 are replaced;
  characters beyond ASCII stand for themselves and end a stretch. In form data a plus sign is a space.
-/

import Untrack.Bytes.Utf8

namespace Untrack.Url.Percent

/-- The bytes that ASCII text stands for. -/
def bytes : Text → Bytes
  | '%' :: a :: b :: r =>
    match hexValue? a, hexValue? b with
    | some x, some y => UInt8.ofNat (16 * x + y) :: bytes r
    | _, _ => 37 :: bytes (a :: b :: r)
  | c :: r => UInt8.ofNat c.toNat :: bytes r
  | [] => []

def isAscii (c : Char) : Bool := c.toNat < 128

/-- The text of the stretch read so far, latest first. -/
def stretch (read : Text) : Text := Bytes.Utf8.decodeLossy (bytes read.reverse)

def decodeAfter (read : Text) : Text → Text
  | [] => stretch read
  | c :: r => if isAscii c then decodeAfter (c :: read) r else stretch read ++ c :: decodeAfter [] r

def decode (t : Text) : Text := decodeAfter [] t

def plusToSpace (c : Char) : Char := if c = '+' then ' ' else c

/-- A key or value of form data. -/
def decodeForm (t : Text) : Text := decode (t.map plusToSpace)

end Untrack.Url.Percent
