/-
  Untrack.Text.Basic — text as a list of characters, and the cuts the rest of the library makes in it: the
  pieces between separators, the part before and after a character's first occurrence, the middle that is
  left when the ends are trimmed, and a slice between two positions.

  A text without separators is its own only piece (`pieces_of_none`), and a separator ends the piece before it
  (`pieces_append_cons`).
-/

namespace Untrack

/-- Text is a sequence of Unicode scalar values; every position and length counts them. -/
abbrev Text := List Char

namespace Text

/-- The pieces between the characters that satisfy `p`, one more than there are such characters. -/
def pieces (p : Char → Bool) : Text → List Text
  | [] => [[]]
  | c :: r => if p c then [] :: pieces p r else (pieces p r).modifyHead (c :: ·)

/-- What stands before the first `c`; all of the text when there is none. -/
def before (c : Char) (t : Text) : Text := t.takeWhile (· != c)

/-- What follows the first `c`. -/
def after? (c : Char) (t : Text) : Option Text := (t.dropWhile (· != c)).tail?

/-- The text without the leading and the trailing characters that satisfy `p`. -/
def trimmed (p : Char → Bool) (t : Text) : Text := ((t.dropWhile p).reverse.dropWhile p).reverse

/-- The characters from position `start` up to position `stop`. -/
def slice (t : Text) (start stop : Nat) : Text := (t.drop start).take (stop - start)

def startsWith (t start : Text) : Bool := start.isPrefixOf t

/-- Whether a text comes before another, or is the other, by code point. -/
def precedes : Text → Text → Bool
  | [], _ => true
  | _ :: _, [] => false
  | a :: s, b :: t => a.toNat < b.toNat || (a == b && precedes s t)

theorem pieces_ne_nil (p : Char → Bool) (t : Text) : pieces p t ≠ [] := by
  induction t with
  | nil => simp [pieces]
  | cons c r ih =>
    unfold pieces
    split
    · simp
    · cases h : pieces p r with
      | nil => exact absurd h ih
      | cons w ws => simp

/-- A text without separators is its own only piece. -/
theorem pieces_of_none {p : Char → Bool} {t : Text} (h : ∀ c ∈ t, p c = false) : pieces p t = [t] := by
  induction t with
  | nil => rfl
  | cons c r ih => simp [pieces, h c, ih fun d hd => h d (by simp [hd])]

/-- A separator ends the piece before it. -/
theorem pieces_append_cons {p : Char → Bool} {s : Char} (hs : p s = true) (a b : Text) :
    pieces p (a ++ s :: b) = pieces p a ++ pieces p b := by
  induction a with
  | nil => simp [pieces, hs]
  | cons c r ih =>
    by_cases hc : p c = true
    · simp [pieces, hc, ih]
    · cases h : pieces p r with
      | nil => exact absurd h (pieces_ne_nil p r)
      | cons w ws => simp [pieces, hc, ih, h]

theorem slice_sublist (t : Text) (start stop : Nat) : (slice t start stop).Sublist t :=
  (List.take_sublist _ _).trans (List.drop_sublist _ _)

end Text
end Untrack
