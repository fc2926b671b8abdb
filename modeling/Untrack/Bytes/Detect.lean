/-
  Untrack.Bytes.Detect — a document's bytes as text when nobody says in which encoding. A byte order mark
  decides first; without one, the place of the zero bytes among the first four tells the wide encodings
  apart, since a document starts with two characters of one byte each. Everything else is UTF-8.

  Text holds scalar values only, so half of a surrogate pair that stands alone is read as U+FFFD.
-/

import Untrack.Bytes.Utf8

namespace Untrack.Bytes

/-- How the bytes are encoded, and how many bytes the byte order mark takes. -/
structure Detected where
  encoding : Encoding
  mark : Nat

/-- The encoding that the zero bytes at the start suggest. -/
def guess : Bytes → Encoding
  | b0 :: b1 :: b2 :: b3 :: _ =>
    if b0 = 0 then if b1 = 0 then .utf32 true else .utf16 true
    else if b1 = 0 then if b2 = 0 ∧ b3 = 0 then .utf32 false else .utf16 false
    else .utf8
  | [b0, b1] => if b0 = 0 then .utf16 true else if b1 = 0 then .utf16 false else .utf8
  | _ => .utf8

def detect (b : Bytes) : Detected :=
  if [0, 0, 0xFE, 0xFF].isPrefixOf b then ⟨.utf32 true, 4⟩
  else if [0xFF, 0xFE, 0, 0].isPrefixOf b then ⟨.utf32 false, 4⟩
  else if [0xFE, 0xFF].isPrefixOf b then ⟨.utf16 true, 2⟩
  else if [0xFF, 0xFE].isPrefixOf b then ⟨.utf16 false, 2⟩
  else if [0xEF, 0xBB, 0xBF].isPrefixOf b then ⟨.utf8, 3⟩
  else ⟨guess b, 0⟩

/-- Groups of `width` bytes as numbers, and the bytes that are left over. -/
def units (width : Nat) (bigEndian : Bool) : Nat → Bytes → List Nat × Bytes
  | 0, b => ([], b)
  | k + 1, b =>
    if b.length < width then ([], b)
    else
      let group := b.take width
      let (us, left) := units width bigEndian k (b.drop width)
      (ofDigits 256 ((if bigEndian then group else group.reverse).map UInt8.toNat) :: us, left)

def isHighHalf (u : Nat) : Bool := 0xD800 ≤ u && u < 0xDC00

def isLowHalf (u : Nat) : Bool := 0xDC00 ≤ u && u < 0xE000

/-- The character of a surrogate pair. -/
def joinHalves (high low : Nat) : Char := Char.ofNat (0x10000 + (high - 0xD800) * 0x400 + (low - 0xDC00))

/-- A code unit that is a character by itself; a lone half is replaced. -/
def ofUnit (u : Nat) : Char := if isHighHalf u || isLowHalf u then Utf8.replacement else Char.ofNat u

def ofUnits16 : List Nat → Text
  | [] => []
  | [u] => [ofUnit u]
  | u :: v :: r =>
    if isHighHalf u && isLowHalf v then joinHalves u v :: ofUnits16 r else ofUnit u :: ofUnits16 (v :: r)

/-- Bytes left over at the end of a wide encoding. -/
def leftOver (e : Encoding) (position : Nat) : Bytes → Except Fault Unit
  | [] => .ok ()
  | b :: r => .error ⟨e, b, position, r.length + 1, .truncated⟩

def decodeUtf16 (big : Bool) (mark : Nat) (b : Bytes) : Except Fault Text := do
  let (us, left) := units 2 big b.length b
  leftOver (.utf16 big) (mark + 2 * us.length) left
  return ofUnits16 us

/-- The first number that is no code point is a fault. -/
def ofUnits32 (big : Bool) (position : Nat) (b : Bytes) : List Nat → Except Fault Text
  | [] => .ok []
  | u :: us =>
    if u < 0x110000 then (ofUnit u :: ·) <$> ofUnits32 big (position + 4) (b.drop 4) us
    else .error ⟨.utf32 big, b.headD 0, position, 4, .notACodePoint⟩

def decodeUtf32 (big : Bool) (mark : Nat) (b : Bytes) : Except Fault Text := do
  let (us, left) := units 4 big b.length b
  let t ← ofUnits32 big mark b us
  leftOver (.utf32 big) (mark + 4 * us.length) left
  return t

/-- Surrogates written as three bytes of UTF-8 count as readable here, and are replaced. -/
def patchHalves : Bytes → Bytes
  | 0xED :: b1 :: b2 :: r =>
    if 0xA0 ≤ b1 ∧ b1 ≤ 0xBF ∧ 0x80 ≤ b2 ∧ b2 ≤ 0xBF then 0xEF :: 0xBF :: 0xBD :: patchHalves r
    else 0xED :: patchHalves (b1 :: b2 :: r)
  | b :: r => b :: patchHalves r
  | [] => []

/-- The text of a document, whatever its encoding; positions in faults of the wide encodings count the mark. -/
def decodeDetected (b : Bytes) : Except Fault Text :=
  let d := detect b
  let rest := b.drop d.mark
  match d.encoding with
  | .utf8 => Utf8.decode (patchHalves rest)
  | .utf16 big => decodeUtf16 big d.mark rest
  | .utf32 big => decodeUtf32 big d.mark rest

end Untrack.Bytes
