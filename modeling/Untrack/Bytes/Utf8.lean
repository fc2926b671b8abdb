/-
  Untrack.Bytes.Utf8 — UTF-8. The lead byte of a character says how many bytes follow and where the first of
  these must lie, which keeps out overlong forms, surrogates and numbers past the last code point; the others
  lie in 80 to BF. `scan` reads bytes one at a time. A byte that does not continue the character under way
  makes the bytes read of it one fault, and is then read anew as a first byte, so every fault covers a
  longest readable start of a character.

  `decode` fails with the first fault; `decodeLossy` puts U+FFFD in the place of each.
-/

import Untrack.Text.Basic
import Untrack.Bytes.Basic

namespace Untrack.Bytes.Utf8

/-- A character under way: its lead byte and position, the bytes read of it, the bytes still owed, the range
of the next one, and the bits so far. -/
structure Pending where
  lead : UInt8
  position : Nat
  count : Nat
  owed : Nat
  low : Nat
  high : Nat
  bits : Nat

inductive Lead
  | whole (c : Char)
  | opens (owed low high bits : Nat)
  | none

def lead (b : UInt8) : Lead :=
  let n := b.toNat
  if n < 0x80 then .whole (Char.ofNat n)
  else if n < 0xC2 then .none
  else if n < 0xE0 then .opens 1 0x80 0xBF (n - 0xC0)
  else if n < 0xF0 then
    .opens 2 (if n = 0xE0 then 0xA0 else 0x80) (if n = 0xED then 0x9F else 0xBF) (n - 0xE0)
  else if n < 0xF5 then
    .opens 3 (if n = 0xF0 then 0x90 else 0x80) (if n = 0xF4 then 0x8F else 0xBF) (n - 0xF0)
  else .none

def Pending.fault (p : Pending) (flaw : Flaw) : Fault := ⟨.utf8, p.lead, p.position, p.count, flaw⟩

def Pending.accepts (p : Pending) (b : UInt8) : Bool := p.low ≤ b.toNat && b.toNat ≤ p.high

/-- The character under way with one more of its bytes. -/
def Pending.push (p : Pending) (b : UInt8) : Pending :=
  { p with count := p.count + 1, owed := p.owed - 1, low := 0x80, high := 0xBF,
           bits := p.bits * 64 + (b.toNat - 0x80) }

/-- What a byte between characters yields, and the character it opens. -/
def first (position : Nat) (b : UInt8) : List (Except Fault Char) × Option Pending :=
  match lead b with
  | .whole c => ([.ok c], none)
  | .opens owed low high bits => ([], some ⟨b, position, 1, owed, low, high, bits⟩)
  | .none => ([.error ⟨.utf8, b, position, 1, .badStart⟩], none)

/-- What a byte yields, between characters or inside one, and the character that is then under way. -/
def step (position : Nat) (b : UInt8) : Option Pending → List (Except Fault Char) × Option Pending
  | none => first position b
  | some p =>
    if p.accepts b then
      if p.owed = 1 then ([.ok (Char.ofNat (p.push b).bits)], none) else ([], some (p.push b))
    else
      let (out, under) := first position b
      (.error (p.fault .badContinuation) :: out, under)

/-- The characters and faults of the bytes from a position on. -/
def scan (position : Nat) (under : Option Pending) : Bytes → List (Except Fault Char)
  | [] => under.toList.map fun p => .error (p.fault .endOfData)
  | b :: r => (step position b under).1 ++ scan (position + 1) (step position b under).2 r

def decode (b : Bytes) : Except Fault Text := (scan 0 none b).mapM id

def replacement : Char := Char.ofNat 0xFFFD

def orReplacement : Except Fault Char → Char
  | .ok c => c
  | .error _ => replacement

def decodeLossy (b : Bytes) : Text := (scan 0 none b).map orReplacement

def encode (t : Text) : Bytes := t.flatMap String.utf8EncodeChar

end Untrack.Bytes.Utf8
