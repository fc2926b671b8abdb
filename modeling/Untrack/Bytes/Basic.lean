/-
  Untrack.Bytes.Basic — byte strings, and what is said of bytes that a text encoding cannot read: the
  encoding, where the unreadable bytes stand, and why they are unreadable.
-/

import Untrack.Number.Hex

namespace Untrack

abbrev Bytes := List UInt8

namespace Bytes

inductive Encoding
  | utf8
  | utf16 (bigEndian : Bool)
  | utf32 (bigEndian : Bool)
  deriving DecidableEq, Repr

def Encoding.name : Encoding → String
  | .utf8 => "utf-8"
  | .utf16 big => if big then "utf-16-be" else "utf-16-le"
  | .utf32 big => if big then "utf-32-be" else "utf-32-le"

inductive Flaw
  | badStart
  | badContinuation
  | endOfData
  | truncated
  | notACodePoint
  deriving DecidableEq, Repr

def Flaw.message : Flaw → String
  | .badStart => "invalid start byte"
  | .badContinuation => "invalid continuation byte"
  | .endOfData => "unexpected end of data"
  | .truncated => "truncated data"
  | .notACodePoint => "code point not in range(0x110000)"

/-- `count` bytes from `position` on, the first of them `byte`, cannot be read. -/
structure Fault where
  encoding : Encoding
  byte : UInt8
  position : Nat
  count : Nat
  flaw : Flaw
  deriving DecidableEq, Repr

def quotedName (e : Encoding) : String := "'" ++ e.name ++ "'"

def Fault.message (f : Fault) : String :=
  quotedName f.encoding ++ " codec can't decode " ++
    (if f.count = 1 then
      "byte 0x" ++ String.ofList (hexDigits 2 f.byte.toNat) ++ " in position " ++ toString f.position
    else
      "bytes in position " ++ toString f.position ++ "-" ++ toString (f.position + f.count - 1)) ++
    ": " ++ f.flaw.message

end Bytes
end Untrack
