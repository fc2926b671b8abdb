/-
  Untrack.Unicode.Ranges — a set of code points as the increasing list of its boundaries: the first code
  point in, the first one out again, the next one in, and so on. A code point is in the set when an odd
  number of boundaries is at or below it, which is what `covers` reads off from the left.
-/

namespace Untrack.Unicode

/-- Whether a code point lies in the set with these boundaries. -/
def covers : List Nat → Nat → Bool
  | [], _ => false
  | b :: bs, n => if n < b then false else !covers bs n

/-- Nothing below the first boundary is in the set. -/
theorem covers_of_lt {b n : Nat} (bs : List Nat) (h : n < b) : covers (b :: bs) n = false := by
  simp [covers, h]

/-- From a boundary on, membership is the opposite of what the later boundaries say. -/
theorem covers_of_le {b n : Nat} (bs : List Nat) (h : b ≤ n) : covers (b :: bs) n = !covers bs n := by
  simp [covers, Nat.not_lt.2 h]

end Untrack.Unicode
