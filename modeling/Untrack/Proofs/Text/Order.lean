/-
  Untrack.Proofs.Text.Order — texts in code point order. `Text.precedes` is the order of a dictionary whose alphabet
  is the code points (`precedes_iff`), so it sorts: it is transitive and compares any two texts.
-/

import Untrack.Text.Basic

namespace Untrack.Text

variable {s t u : Text}

/-- At the first place where they differ, the one text ends or has the lesser code point. -/
def Before (s t : Text) : Prop := List.Lex (fun a b : Char => a.toNat < b.toNat) s t

theorem not_before_self (s : Text) : ¬ s.Before s := by
  induction s with
  | nil => exact fun h => nomatch h
  | cons c s ih =>
    intro h
    cases h with
    | rel h => exact Nat.lt_irrefl _ h
    | cons h => exact ih h

theorem Before.trans (h : s.Before t) (k : t.Before u) : s.Before u :=
  List.lex_trans (fun h k => Nat.lt_trans h k) h k

theorem Before.asymm (h : s.Before t) : ¬ t.Before s := fun k => not_before_self s (h.trans k)

theorem precedes_iff : precedes s t = true ↔ s = t ∨ s.Before t := by
  induction s generalizing t with
  | nil =>
    cases t with
    | nil => simp [precedes]
    | cons b t =>
      have first : Before [] (b :: t) := .nil
      simp [precedes, first]
  | cons a s ih =>
    cases t with
    | nil =>
      have never : ¬ Before (a :: s) [] := fun h => nomatch h
      simp [precedes, never]
    | cons b t =>
      have first : Before (a :: s) (b :: t) ↔ a.toNat < b.toNat ∨ a = b ∧ Before s t := by
        constructor
        · intro h
          cases h with
          | rel h => exact Or.inl h
          | cons h => exact Or.inr ⟨rfl, h⟩
        · rintro (h | ⟨rfl, h⟩)
          · exact .rel h
          · exact .cons h
      rw [precedes, Bool.or_eq_true, Bool.and_eq_true, decide_eq_true_iff, beq_iff_eq, ih, first, List.cons.injEq]
      grind

theorem precedes_trans (h : precedes s t = true) (k : precedes t u = true) : precedes s u = true := by
  rw [precedes_iff] at h k ⊢
  rcases h with rfl | h
  · exact k
  · rcases k with rfl | k
    · exact Or.inr h
    · exact Or.inr (h.trans k)

theorem precedes_total (s t : Text) : (precedes s t || precedes t s) = true := by
  induction s generalizing t with
  | nil => simp [precedes]
  | cons a s ih =>
    cases t with
    | nil => simp [precedes]
    | cons b t =>
      rcases Nat.lt_trichotomy a.toNat b.toNat with h | h | h
      · simp [precedes, h]
      · have same : a = b := Char.toNat_inj.mp h
        subst same
        simpa [precedes] using ih t
      · simp [precedes, h]

end Untrack.Text
