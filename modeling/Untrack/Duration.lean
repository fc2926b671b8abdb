/-
  Untrack.Duration — spans of time, in whole microseconds. A span given in hours may be fractional: its whole
  hours count exactly, the rest is taken to microseconds in double precision and rounded, a half to the even
  microsecond. A span may not exceed 999999999 days in either direction.
-/

import Untrack.Number.Binary64

namespace Untrack

structure Duration where
  micros : Int
  deriving DecidableEq, Repr

namespace Duration

inductive Fault
  | notANumber
  | infinite
  | tooLong (days : Int)
  deriving DecidableEq, Repr

def maxDays : Nat := 999999999

/-- Past this number of days, either way, a span is not even counted. -/
def wordBound : Int := 2147483648

def Fault.message : Fault → String
  | .notANumber => "cannot convert float NaN to integer"
  | .infinite => "cannot convert float infinity to integer"
  | .tooLong days =>
    if days < -wordBound ∨ wordBound ≤ days then "Python int too large to convert to C int"
    else "days=" ++ toString days ++ "; must have magnitude <= " ++ toString maxDays

def microsPerHour : Nat := 3600000000

def microsPerDay : Nat := 24 * microsPerHour

def ofSeconds (n : Int) : Duration := ⟨n * 1000000⟩

/-- A span within the bounds. -/
def ofMicros (n : Int) : Except Fault Duration :=
  let days := n.fdiv microsPerDay
  if days.natAbs ≤ maxDays then .ok ⟨n⟩ else .error (.tooLong days)

/-- The microseconds in a fraction of an hour, `num / den` with the fraction below one. -/
def microsOfFraction (num den : Nat) : Nat :=
  match Binary64.ofRatio false (num * microsPerHour) den with
  | .finite _ m e =>
    let (n, d) := Binary64.scaled m 1 (-e)
    Binary64.roundQuotient n d
  | _ => 0

/-- The microseconds in `num / den` hours. -/
def microsOfRatio (num den : Nat) : Nat := num / den * microsPerHour + microsOfFraction (num % den) den

/-- A number of hours, whole or real. -/
inductive Hours
  | whole (n : Int)
  | real (x : Binary64)
  deriving DecidableEq, Repr

def ofHours : Hours → Except Fault Duration
  | .whole n => ofMicros (n * microsPerHour)
  | .real .nan => .error .notANumber
  | .real (.infinite _) => .error .infinite
  | .real (.finite negative m e) =>
    let (n, d) := Binary64.scaled m 1 (-e)
    let micros : Int := microsOfRatio n d
    ofMicros (if negative then -micros else micros)

end Duration
end Untrack
