/-
  Untrack.Pattern.Letter — what one character of a pattern stands for: a set of characters, tested as it is or
  after the tested character was brought to lower case.

  When case is ignored, a set that holds a letter with case is made of the lower case of its members, of their
  twins (`Unicode.twins`), and of ranges that ask whether any letter with the tested lower case lies in them.
  Past U+FFFF a range also accepts a character whose upper case lies in it, and a single letter in a set of
  several stands for itself alone. A set without cased letters is tested as it is.
-/

import Untrack.Unicode.Casing
import Untrack.Unicode.Word
import Untrack.Unicode.Blank

namespace Untrack.Pattern

/-- Classes of characters that an escape names. -/
inductive Category
  | digit
  | space
  | word
  deriving DecidableEq, Repr

/-- A member of a set as it is written. -/
inductive SetItem
  | one (n : Nat)
  | range (low high : Nat)
  | category (k : Category) (negated : Bool)
  deriving DecidableEq, Repr

/-- How a character is brought to lower case before it is tested. -/
inductive Folding
  | none
  | ascii
  | unicode
  deriving DecidableEq, Repr

def Folding.lower (f : Folding) (n : Nat) : Nat :=
  match f with
  | .none => n
  | .ascii => if 65 ≤ n && n ≤ 90 then n + 32 else n
  | .unicode => Unicode.lower n

/-- The code points with a given lower case. -/
def Folding.sources (f : Folding) (n : Nat) : List Nat :=
  match f with
  | .none => [n]
  | .ascii => if 97 ≤ n && n ≤ 122 then [n, n - 32] else if 65 ≤ n && n ≤ 90 then [] else [n]
  | .unicode => Unicode.withLower n ++ (Unicode.twins n).flatMap Unicode.withLower

/-- A member of a set as it is tested. -/
inductive Member
  | one (n : Nat)
  | range (low high : Nat)
  /-- Some code point with the tested lower case, or a twin of it, lies between the two. -/
  | sourceIn (low high : Nat)
  /-- The tested code point or its upper case lies between the two. -/
  | upperIn (low high : Nat)
  | category (k : Category) (negated ascii : Bool)
  deriving DecidableEq, Repr

structure LetterTest where
  negated : Bool
  folding : Folding
  members : List Member
  deriving DecidableEq, Repr

def within (low high n : Nat) : Bool := low ≤ n && n ≤ high

def Category.has (k : Category) (ascii : Bool) (n : Nat) : Bool :=
  if ascii && 128 ≤ n then false
  else
    let c := Char.ofNat n
    match k with
    | .digit => Unicode.isDigit c
    | .space => if ascii then within 9 13 n || n == 32 else Unicode.isBlank c
    | .word => Unicode.isWord c

def Member.has (f : Folding) (n : Nat) : Member → Bool
  | .one m => n == m
  | .range low high => within low high n
  | .sourceIn low high => (f.sources n).any (within low high)
  | .upperIn low high => within low high n || within low high (Unicode.upper n)
  | .category k negated ascii => k.has ascii n != negated

def LetterTest.holds (t : LetterTest) (c : Char) : Bool :=
  (t.members.any (·.has t.folding (t.folding.lower c.toNat))) != t.negated

/-- The folding that applies when case is ignored, over ASCII letters only or over all. -/
def foldingFor (ascii : Bool) : Folding := if ascii then .ascii else .unicode

def isCasedIn (ascii : Bool) (n : Nat) : Bool :=
  if ascii then within 65 90 n || within 97 122 n else Unicode.isCased n

def anyCasedIn (ascii : Bool) (low high : Nat) : Bool :=
  if ascii then (low ≤ 90 && 65 ≤ high) || (low ≤ 122 && 97 ≤ high) else Unicode.anyCased low high

def lastOfPlaneZero : Nat := 0xFFFF

/-- Whether an item makes its whole set be tested in lower case. -/
def SetItem.folds (ascii : Bool) : SetItem → Bool
  | .one n => lastOfPlaneZero < n || isCasedIn ascii n
  | .range low high => lastOfPlaneZero < high || anyCasedIn ascii low high
  | .category _ _ => false

def lowerAndTwins (ascii : Bool) (n : Nat) : List Nat :=
  let l := (foldingFor ascii).lower n
  if ascii then [l] else l :: Unicode.twins l

def SetItem.plain (ascii : Bool) : SetItem → List Member
  | .one n => [.one n]
  | .range low high => [.range low high]
  | .category k negated => [.category k negated ascii]

def SetItem.folded (ascii : Bool) : SetItem → List Member
  | .one n => if lastOfPlaneZero < n then [.one n] else (lowerAndTwins ascii n).map .one
  | .range low high =>
    (if low ≤ lastOfPlaneZero then [.sourceIn low (min high lastOfPlaneZero)] else []) ++
      (if lastOfPlaneZero < high then [.upperIn low high] else [])
  | .category k negated => [.category k negated ascii]

/-- A set of characters. -/
def LetterTest.ofSet (ignoreCase ascii negated : Bool) (items : List SetItem) : LetterTest :=
  if ignoreCase && items.any (·.folds ascii) then
    ⟨negated, foldingFor ascii, items.flatMap (·.folded ascii)⟩
  else ⟨negated, .none, items.flatMap (·.plain ascii)⟩

/-- A single character, or every character but it. -/
def LetterTest.ofChar (ignoreCase ascii negated : Bool) (n : Nat) : LetterTest :=
  if ignoreCase && isCasedIn ascii n then
    ⟨negated, foldingFor ascii, (lowerAndTwins ascii n).map .one⟩
  else ⟨negated, .none, [.one n]⟩

def LetterTest.anything : LetterTest := ⟨true, .none, []⟩

def LetterTest.notNewline : LetterTest := ⟨true, .none, [.one 10]⟩

end Untrack.Pattern
