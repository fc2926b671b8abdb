/-
  Untrack.Proofs.Text.Letters — texts that differ in the case of ASCII letters only have the same lower case
  (`lower_of_sameLetters`). The lower case of a character depends on those around it at the end of a word only, and
  there the letters of ASCII have case and are not passed over, whichever their case.
-/

import Mathlib
import Untrack.Proofs.Text.Lower

namespace Untrack.Text

/-- The texts differ at most in the case of ASCII letters. -/
def SameLetters (s t : Text) : Prop := List.Forall₂ (fun c d : Char => c.toLower = d.toLower) s t

instance (s t : Text) : Decidable (SameLetters s t) := inferInstanceAs (Decidable (List.Forall₂ _ s t))

/-! ## Characters -/

theorem toLower_cases (c : Char) :
    c.toLower = c ∨ ∃ n, (65 ≤ n ∧ n ≤ 90) ∧ c = Char.ofNat n ∧ c.toLower = Char.ofNat (n + 32) := by
  by_cases h : c.isUpper = true
  · right
    refine ⟨c.toNat, ?_, (Char.ofNat_toNat c).symm, Char.toLower_eq_of_isUpper h⟩
    simpa [Char.isUpper, UInt32.le_iff_toNat_le] using h
  · exact Or.inl (Char.toLower_eq_of_not_isUpper h)

theorem capital_cases : ∀ n ≤ 90, 65 ≤ n →
    isPassedOver (Char.ofNat (n + 32)) = isPassedOver (Char.ofNat n) ∧
      hasCase (Char.ofNat (n + 32)) = hasCase (Char.ofNat n) ∧
      Unicode.lower (Char.ofNat (n + 32)).toNat = Unicode.lower (Char.ofNat n).toNat := by
  decide

theorem isPassedOver_toLower (c : Char) : isPassedOver c.toLower = isPassedOver c := by
  rcases toLower_cases c with h | ⟨n, ⟨low, high⟩, rfl, h⟩ <;> rw [h]
  exact (capital_cases n high low).1

theorem hasCase_toLower (c : Char) : hasCase c.toLower = hasCase c := by
  rcases toLower_cases c with h | ⟨n, ⟨low, high⟩, rfl, h⟩ <;> rw [h]
  exact (capital_cases n high low).2.1

/-- The lower case of a character and of its ASCII lower case are the same. -/
theorem lowerChar_toLower (read : Text) (c : Char) (rest : Text) :
    lowerChar read c.toLower rest = lowerChar read c rest := by
  rcases toLower_cases c with h | ⟨n, ⟨low, high⟩, rfl, h⟩ <;> rw [h]
  -- neither of the two is a letter with a rule of its own
  have plain : ∀ m ≤ 122, (Char.ofNat m).toNat ≠ 0x130 ∧ (Char.ofNat m).toNat ≠ 0x3A3 := by decide
  obtain ⟨dotted, sigma⟩ := plain n (by omega)
  obtain ⟨dotted', sigma'⟩ := plain (n + 32) (by omega)
  simp only [lowerChar, dotted, sigma, dotted', sigma', if_false, (capital_cases n high low).2.2]

/-! ## Texts -/

variable {s t read before : Text}

theorem nextHasCase_of_sameLetters (h : SameLetters s t) : nextHasCase s = nextHasCase t := by
  induction h with
  | nil => rfl
  | @cons c d s t hc _ ih =>
    have passed : isPassedOver c = isPassedOver d := by
      rw [← isPassedOver_toLower c, hc, isPassedOver_toLower]
    have case : hasCase c = hasCase d := by
      rw [← hasCase_toLower c, hc, hasCase_toLower]
    by_cases hp : isPassedOver d = true
    · simpa [nextHasCase, List.dropWhile_cons, passed, hp] using ih
    · simp [nextHasCase, passed, hp, case]

theorem lowerChar_of_sameLetters {c d : Char} (hc : c.toLower = d.toLower) (hb : SameLetters read before)
    (h : SameLetters s t) : lowerChar read c s = lowerChar before d t := by
  rw [← lowerChar_toLower read, hc, lowerChar_toLower]
  simp only [lowerChar, nextHasCase_of_sameLetters hb, nextHasCase_of_sameLetters h]

theorem lowerAfter_of_sameLetters (hb : SameLetters read before) (h : SameLetters s t) :
    lowerAfter read s = lowerAfter before t := by
  induction h generalizing read before with
  | nil => rfl
  | cons hc h ih =>
    simp only [lowerAfter]
    rw [lowerChar_of_sameLetters hc hb h, ih (.cons hc hb)]

/-- Texts that differ at most in the case of ASCII letters have the same lower case. -/
theorem lower_of_sameLetters (h : SameLetters s t) : lower s = lower t := lowerAfter_of_sameLetters .nil h

end Untrack.Text
