/-
  Untrack.Unicode.Names — characters by name. Upper and lower case are the same in most names.

  A table lists the names of characters in the order of their code points, between commas. A name stands for the
  code point after that of the name before, unless it says its own, in hexadecimal between an equals sign and a
  space. The digit in front of a name tells how many words it shares with the start of the name before; these
  are left out. Ideographs and a few scripts are named by their code points, and syllables by their sounds.
-/

import Untrack.Number.Hex
import Untrack.Text.Basic
import Untrack.Unicode.Names.Aliases
import Untrack.Unicode.Names.From0000
import Untrack.Unicode.Names.From1000
import Untrack.Unicode.Names.From1E00
import Untrack.Unicode.Names.From2500
import Untrack.Unicode.Names.From2C00
import Untrack.Unicode.Names.FromA000
import Untrack.Unicode.Names.From10000
import Untrack.Unicode.Names.From11000
import Untrack.Unicode.Names.From12000
import Untrack.Unicode.Names.From14000
import Untrack.Unicode.Names.From1B000
import Untrack.Unicode.Names.From1D400
import Untrack.Unicode.Names.From1F000

namespace Untrack.Unicode
namespace Names

def upper (t : Text) : Text := t.map Char.toUpper

/-- The code point of an entry, where `next` is the one due, and what follows it. -/
def codeOf (next : Nat) (entry : Text) : Nat × Text :=
  match entry with
  | '=' :: r => (ofHex (Text.before ' ' r), (Text.after? ' ' r).getD [])
  | r => (next, r)

/-- The words of a name, given those of the name before. -/
def wordsOf (last : List Text) : Text → List Text
  | kept :: r => last.take (kept.toNat - 48) ++ Text.pieces (· == ' ') r
  | [] => []

/-- The code point of a name among entries. -/
def search (wanted : List Text) : (next : Nat) → (last : List Text) → (entries : List Text) → Option Nat
  | _, _, [] => none
  | next, last, e :: rest =>
    let (code, name) := codeOf next e
    let words := wordsOf last name
    if words = wanted then some code else search wanted (code + 1) words rest

def entries (table : List String) : List Text := table.flatMap fun line => Text.pieces (· == ',') line.toList

def tables : List (List String) :=
  [from0000, from1000, from1E00, from2500, from2C00, fromA000, from10000, from11000, from12000, from14000,
    from1B000, from1D400, from1F000]

def listed? (name : Text) : Option Nat :=
  tables.findSome? fun t => search (name.pieces (· == ' ')) 0 [] (entries t)

def alias? (name : Text) : Option Nat :=
  (entries aliases).findSome? fun e => if e.before '=' = name then (e.after? '=').map ofHex else none

/-- What follows a start. -/
def rest? (start name : Text) : Option Text := if name.startsWith start then some (name.drop start.length) else none

/-- The number after `VS`, from 1 to 256, tells a variation selector. -/
def variation? (name : Text) : Option Nat := do
  let digits ← rest? ['V', 'S'] name
  let n := ofDigits 10 (digits.map fun c => c.toNat - 48)
  if !digits.all Char.isDigit || digits.head? = some '0' || n = 0 then none
  else if n ≤ 16 then some (0xFE00 + n - 1)
  else if n ≤ 256 then some (0xE0100 + n - 17)
  else none

def isUpperHex (c : Char) : Bool := isHexDigit c && !c.isLower

/-- A code point within bounds, from its digits. -/
def within? (bounds : List (Nat × Nat)) (digits : Text) : Option Nat :=
  let n := ofHex digits
  if digits.all isUpperHex && (digits.length = 4 || digits.length = 5) && bounds.any (fun b => b.1 ≤ n && n ≤ b.2)
  then some n else none

/-- The scripts whose characters are named by a start and their code points. -/
def numbered : List (String × List (Nat × Nat)) :=
  [("CJK COMPATIBILITY IDEOGRAPH-", [(0xF900, 0xFA6D), (0xFA70, 0xFAD9), (0x2F800, 0x2FA1D)]),
    ("KHITAN SMALL SCRIPT CHARACTER-", [(0x18B00, 0x18CD5)]),
    ("NUSHU CHARACTER-", [(0x1B170, 0x1B2FB)])]

def numbered? (name : Text) : Option Nat :=
  numbered.findSome? fun (start, bounds) => do
    let digits ← rest? start.toList name
    if digits.head? = some '0' then none else within? bounds digits

def ideographBounds : List (Nat × Nat) :=
  [(0x3400, 0x4DBF), (0x4E00, 0x9FFF), (0x20000, 0x2A6DF), (0x2A700, 0x2B738), (0x2B740, 0x2B81D),
    (0x2B820, 0x2CEA1), (0x2CEB0, 0x2EBE0), (0x30000, 0x3134A)]

def ideograph? (name : Text) : Option Nat := do within? ideographBounds (← rest? "CJK UNIFIED IDEOGRAPH-".toList name)

def sounds (t : String) : List Text := Text.pieces (· == ',') t.toList

def initials : List Text := sounds "G,GG,N,D,DD,R,M,B,BB,S,SS,,J,JJ,C,K,T,P,H"

def vowels : List Text := sounds "A,AE,YA,YAE,EO,E,YEO,YE,O,WA,WAE,OE,YO,U,WEO,WE,WI,YU,EU,YI,I"

def finals : List Text :=
  sounds ",G,GG,GS,N,NJ,NH,D,L,LG,LM,LB,LS,LT,LP,LH,M,B,BS,S,SS,NG,J,C,K,T,P,H"

/-- The index of a sound that a text starts with, and the text after it, for every such sound. -/
def starts (sounds : List Text) (t : Text) : List (Nat × Text) :=
  sounds.zipIdx.filterMap fun (s, i) => (rest? s t).map (i, ·)

/-- A syllable is named by its initial, its vowel and its final. -/
def syllable? (name : Text) : Option Nat := do
  let t ← rest? "HANGUL SYLLABLE ".toList name
  (starts initials t).findSome? fun (i, t) =>
    (starts vowels t).findSome? fun (v, t) =>
      (finals.idxOf? t).map fun f => 0xAC00 + (i * 21 + v) * 28 + f

end Names

open Names in
/-- The code point of the character of a name. -/
def named? (name : Text) : Option Nat :=
  (ideograph? name).or <| (syllable? name).or <| (numbered? (upper name)).or <| (variation? (upper name)).or <|
    (alias? (upper name)).or (listed? (upper name))

end Untrack.Unicode
