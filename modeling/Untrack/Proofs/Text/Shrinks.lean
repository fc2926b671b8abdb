/-
  Untrack.Proofs.Text.Shrinks — texts that are left as they are or get shorter. Such changes add up to one that does
  the same, and if they lead back to the text they began with, each of them left it as it was (`antisymm`).

  Texts that only lose characters keep the others in their order. Of those kept, letters of ASCII may change their case
  (`Thins`).
-/

import Untrack.Text.Basic

namespace Untrack

/-- A text is left as it was, or gets shorter. -/
def Text.Shrinks (before after : Text) : Prop := after = before ∨ after.length < before.length

namespace Text.Shrinks

variable {a b c d : Text}

theorem refl (t : Text) : t.Shrinks t := Or.inl rfl

theorem of_sublist (h : b.Sublist a) : a.Shrinks b := by
  rcases Nat.lt_or_ge b.length a.length with shorter | same
  · exact Or.inr shorter
  · exact Or.inl (h.eq_of_length_le same)

theorem length_le (h : a.Shrinks b) : b.length ≤ a.length := by
  rcases h with rfl | h
  · exact Nat.le_refl _
  · exact Nat.le_of_lt h

theorem trans (h : a.Shrinks b) (k : b.Shrinks c) : a.Shrinks c := by
  rcases h with rfl | h
  · exact k
  · exact Or.inr (Nat.lt_of_le_of_lt k.length_le h)

/-- What shrinks back to where it began was never anything else. -/
theorem antisymm (h : a.Shrinks b) (k : b.Shrinks a) : b = a := by
  rcases h with h | h
  · exact h
  · exact absurd h (Nat.not_lt.mpr k.length_le)

theorem append (h : a.Shrinks b) (k : c.Shrinks d) : (a ++ c).Shrinks (b ++ d) := by
  have hl := h.length_le
  have kl := k.length_le
  rcases h with rfl | h
  · rcases k with rfl | k
    · exact refl _
    · exact Or.inr (by simpa using k)
  · exact Or.inr (by simp only [List.length_append]; omega)

end Text.Shrinks

/-- A text loses characters, and those that it keeps stay in order, upper or lower case apart. -/
def Text.Thins (before after : Text) : Prop := (after.map Char.toLower).Sublist (before.map Char.toLower)

namespace Text.Thins

variable {a b c : Text}

theorem refl (t : Text) : t.Thins t := List.Sublist.refl _

theorem of_sublist (h : b.Sublist a) : a.Thins b := h.map _

theorem nil (t : Text) : t.Thins [] := List.nil_sublist _

theorem trans (h : a.Thins b) (k : b.Thins c) : a.Thins c := List.Sublist.trans k h

theorem length_le (h : a.Thins b) : b.length ≤ a.length := by simpa using List.Sublist.length_le h

end Text.Thins

end Untrack
