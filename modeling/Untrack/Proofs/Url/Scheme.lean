/-
  Untrack.Proofs.Url.Scheme — schemes. A scheme in lower case is a scheme, and lower already; none of its characters
  is one that a URL loses or that ends one of its parts.
-/

import Mathlib
import Untrack.Url.Basic

namespace Untrack.Url

/-! ## Lower case -/

theorem isSchemeChar_toLower {c : Char} (h : isSchemeChar c = true) : isSchemeChar c.toLower = true := by
  by_cases ha : c.isAlpha = true
  · simp [isSchemeChar, Char.isAlphanum, ha]
  · have upper : ¬ c.isUpper = true := fun hu => ha (by rw [Char.isAlpha, hu, Bool.true_or])
    rwa [Char.toLower_eq_of_not_isUpper upper]

theorem isScheme_map_toLower {t : Text} (h : isScheme t = true) : isScheme (t.map Char.toLower) = true := by
  cases t with
  | nil => cases h
  | cons c r =>
    simp only [isScheme, Bool.and_eq_true, List.all_eq_true] at h
    simp only [List.map_cons, isScheme, Bool.and_eq_true, List.all_eq_true, List.mem_map]
    refine ⟨by rw [Char.isAlpha_toLower_eq_isAlpha, h.1], ?_⟩
    rintro _ ⟨d, hd, rfl⟩
    exact isSchemeChar_toLower (h.2 d hd)

/-! ## Characters of a scheme -/

theorem isSchemeChar_of_isAlpha {c : Char} (h : c.isAlpha = true) : isSchemeChar c = true := by
  simp [isSchemeChar, Char.isAlphanum, h]

/-- A scheme starts with a letter and is made of its own characters. -/
theorem isScheme_cons {t : Text} (h : isScheme t = true) :
    ∃ c r, t = c :: r ∧ c.isAlpha = true ∧ ∀ d ∈ t, isSchemeChar d = true := by
  cases t with
  | nil => cases h
  | cons c r =>
    simp only [isScheme, Bool.and_eq_true, List.all_eq_true] at h
    refine ⟨c, r, rfl, h.1, fun d hd => ?_⟩
    rcases List.mem_cons.mp hd with rfl | hd
    · exact isSchemeChar_of_isAlpha h.1
    · exact h.2 d hd

theorem ne_of_isSchemeChar {c d : Char} (hc : isSchemeChar c = true) (hd : isSchemeChar d = false) : c ≠ d := by
  rintro rfl
  rw [hc] at hd
  cases hd

theorem isRemoved_of_isSchemeChar {c : Char} (h : isSchemeChar c = true) : isRemoved c = false := by
  have tab := ne_of_isSchemeChar (d := '\t') h (by decide)
  have ret := ne_of_isSchemeChar (d := '\r') h (by decide)
  have line := ne_of_isSchemeChar (d := '\n') h (by decide)
  simp [isRemoved, tab, ret, line]

theorem isLeading_of_isAlpha {c : Char} (h : c.isAlpha = true) : isLeading c = false := by
  simp only [Char.isAlpha, Char.isUpper, Char.isLower, Bool.or_eq_true, Bool.and_eq_true, decide_eq_true_eq,
    ge_iff_le, UInt32.le_iff_toNat_le] at h
  have low : 65 ≤ c.val.toNat := by
    rcases h with ⟨h, _⟩ | ⟨h, _⟩
    · exact h
    · have : 97 ≤ c.val.toNat := h
      omega
  have : ¬ c.toNat ≤ 32 := by
    show ¬ c.val.toNat ≤ 32
    omega
  simpa [isLeading] using this

end Untrack.Url
