/-
  Untrack.Number.Binary64 — double-precision numbers as exact values: a sign, a significand of at most
  fifty-three bits and a power of two. A ratio of whole numbers rounds to the nearest such value, a half to
  the even significand; past the largest it is infinite, and the smallest numbers keep fewer bits.
-/

namespace Untrack

inductive Binary64
  | nan
  | infinite (negative : Bool)
  /-- The value `significand * 2 ^ exponent`, with its sign. -/
  | finite (negative : Bool) (significand : Nat) (exponent : Int)
  deriving DecidableEq, Repr

namespace Binary64

/-- A quotient rounded to the nearest whole number, a half to the even one. -/
def roundQuotient (num den : Nat) : Nat :=
  let q := num / den
  let twice := 2 * (num % den)
  if twice > den ∨ (twice = den ∧ q % 2 = 1) then q + 1 else q

/-- The ratio `num / den / 2 ^ e` as numerator and denominator. -/
def scaled (num den : Nat) (e : Int) : Nat × Nat :=
  if 0 ≤ e then (num, den * Nat.pow 2 e.toNat) else (num * Nat.pow 2 (-e).toNat, den)

/-- Two to the fifty-third: significands stay below it. -/
def significandBound : Nat := 9007199254740992

/-- The power of two that leaves the quotient with fifty-three bits, or with fewer below the smallest. -/
def exponentFor (num den : Nat) : Int :=
  let e : Int := num.log2 - den.log2 - 53
  let (n, d) := scaled num den e
  max (if n / d < significandBound then e else e + 1) (-1074)

def ofRatio (negative : Bool) (num den : Nat) : Binary64 :=
  if num = 0 then .finite negative 0 0
  else
    let e := exponentFor num den
    let (n, d) := scaled num den e
    let m := roundQuotient n d
    let (m, e) := if m = significandBound then (significandBound / 2, e + 1) else (m, e)
    if 971 < e then .infinite negative else .finite negative m e

def digitCount (n : Nat) : Nat := (Nat.toDigits 10 n).length

/-- The value nearest to `digits * 10 ^ e`; far outside the range the powers are not computed. -/
def ofDecimal (negative : Bool) (digits : Nat) (e : Int) : Binary64 :=
  if digits = 0 then .finite negative 0 0
  else if 400 < digitCount digits + e then .infinite negative
  else if digitCount digits + e < -400 then .finite negative 0 0
  else if 0 ≤ e then ofRatio negative (digits * Nat.pow 10 e.toNat) 1
  else ofRatio negative digits (Nat.pow 10 (-e).toNat)

def isZero : Binary64 → Bool
  | .finite _ m _ => m == 0
  | _ => false

end Binary64
end Untrack
