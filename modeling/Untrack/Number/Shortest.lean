/-
  Untrack.Number.Shortest — a double-precision number in the fewest decimal digits that read back as the same
  number; of several such numerals with equally many digits, the nearest to the value. It serves to show settings:
  the hours and seconds of Untrack.Settings.Basic are such numbers, and a report of the settings in force has them in
  this form. Nothing else writes such a number.

  The reals that round to a value lie between the midpoints to its neighbours, the midpoints included when
  the significand is even. For one digit, two digits and so on up to seventeen, the two neighbours of the
  value on that decimal grid are tested against this interval in whole numbers.

  A number from 0.0001 up to 10^16 is written positionally, any other with an exponent of at least two digits.
  A whole number ends in `.0`.
-/

import Untrack.Number.Binary64

namespace Untrack.Binary64

/-- The exponent of the leading decimal digit of a positive ratio. -/
def leadingPower (num den : Nat) : Int :=
  if den ≤ num then (digitCount (num / den) : Int) - 1 else -(digitCount ((den - 1) / num) : Int)

/-- `digits * 10 ^ power`. -/
structure Numeral where
  digits : Nat
  power : Int

/-- The numeral as numerator and denominator. -/
def Numeral.ratio (n : Numeral) : Nat × Nat :=
  if 0 ≤ n.power then (n.digits * Nat.pow 10 n.power.toNat, 1) else (n.digits, Nat.pow 10 (-n.power).toNat)

/-- A positive value with the halfway points around it, all over one denominator. -/
structure Rounding where
  low : Nat
  value : Nat
  high : Nat
  den : Nat
  inclusive : Bool

def roundingOf (m : Nat) (e : Int) : Rounding :=
  let below := if 2 * m = significandBound ∧ -1074 < e then 1 else 2
  let (unit, den) := scaled 1 1 (2 - e)
  ⟨(4 * m - below) * unit, 4 * m * unit, (4 * m + 2) * unit, den, m % 2 == 0⟩

/-- Whether a numeral reads back as the value. -/
def Rounding.holds (r : Rounding) (n : Numeral) : Bool :=
  let (num, den) := n.ratio
  let x := num * r.den
  if r.inclusive then r.low * den ≤ x && x ≤ r.high * den else r.low * den < x && x < r.high * den

/-- The value's distance to a numeral, in units that depend on the numeral's power alone. -/
def Rounding.distance (r : Rounding) (n : Numeral) : Nat :=
  let (num, den) := n.ratio
  let x := num * r.den
  let v := r.value * den
  if x ≤ v then v - x else x - v

/-- The better of the value's two neighbours with `count` digits, if one reads back. -/
def Rounding.onGrid? (r : Rounding) (count : Nat) : Option Numeral :=
  let power := leadingPower r.value r.den - count + 1
  let q := if 0 ≤ power then r.value / (r.den * Nat.pow 10 power.toNat) else r.value * Nat.pow 10 (-power).toNat / r.den
  let down : Numeral := ⟨q, power⟩
  let up : Numeral := ⟨q + 1, power⟩
  match r.holds down, r.holds up with
  | true, false => some down
  | false, true => some up
  | false, false => none
  | true, true =>
    let a := r.distance down
    let b := r.distance up
    if a < b ∨ (a = b ∧ q % 2 = 0) then some down else some up

/-- The shortest numeral of `m * 2 ^ e`; seventeen digits always read back. -/
def shortest (m : Nat) (e : Int) : Numeral :=
  ((List.range 17).findSome? fun i => (roundingOf m e).onGrid? (i + 1)).getD ⟨m, 0⟩

/-- The digits without the zeros at their end. -/
def significant (digits : Nat) : List Char :=
  ((Nat.toDigits 10 digits).reverse.dropWhile (· == '0')).reverse

def zeros (n : Nat) : List Char := List.replicate n '0'

/-- Digits with the decimal point after the first `point` of them, or with an exponent. -/
def layOut (digits : List Char) (point : Int) : List Char :=
  if point ≤ -4 ∨ 16 < point then
    let e := point - 1
    let size := Nat.toDigits 10 e.natAbs
    let head := match digits with
      | d :: r => if r.isEmpty then [d] else d :: '.' :: r
      | [] => []
    head ++ 'e' :: (if e < 0 then '-' else '+') :: (if size.length < 2 then '0' :: size else size)
  else if point ≤ 0 then '0' :: '.' :: zeros (-point).toNat ++ digits
  else
    let n := point.toNat
    let whole := digits.take n ++ zeros (n - digits.length)
    let rest := digits.drop n
    whole ++ '.' :: (if rest.isEmpty then ['0'] else rest)

def written : Binary64 → List Char
  | .nan => ['n', 'a', 'n']
  | .infinite negative => if negative then ['-', 'i', 'n', 'f'] else ['i', 'n', 'f']
  | .finite negative m e =>
    let body :=
      if m = 0 then ['0', '.', '0']
      else
        let n := shortest m e
        layOut (significant n.digits) (digitCount n.digits + n.power)
    if negative then '-' :: body else body

end Untrack.Binary64
