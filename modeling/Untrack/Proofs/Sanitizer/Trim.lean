/-
  Untrack.Proofs.Sanitizer.Trim — what trimming leaves of a URL: a start of it, which lacks two characters at most and
  none if the URL ends in neither a question mark nor a slash (`trim_eq_self_iff`). A URL with a scheme and a host keeps
  both (`hasHost_trim`).
-/

import Untrack.Proofs.Url.Shortening
import Untrack.Sanitizer

namespace Untrack.Sanitizer

variable {t : Text}

theorem dropLastIf_isPrefix (c : Char) (t : Text) : dropLastIf c t <+: t := by
  unfold dropLastIf
  split
  · exact List.dropLast_prefix t
  · exact List.prefix_rfl

theorem trim_isPrefix (t : Text) : trim t <+: t := (dropLastIf_isPrefix _ _).trans (dropLastIf_isPrefix _ _)

theorem trim_sublist (t : Text) : (trim t).Sublist t := (trim_isPrefix t).sublist

theorem length_dropLastIf (c : Char) (t : Text) : t.length ≤ (dropLastIf c t).length + 1 := by
  unfold dropLastIf
  split
  · rw [List.length_dropLast]
    omega
  · exact Nat.le_succ _

theorem length_trim (t : Text) : t.length ≤ (trim t).length + 2 := by
  have first := length_dropLastIf '?' t
  have second := length_dropLastIf '/' (dropLastIf '?' t)
  unfold trim
  omega

theorem dropLastIf_eq_self_iff {c : Char} : dropLastIf c t = t ↔ t.getLast? ≠ some c := by
  unfold dropLastIf
  split
  · rename_i last
    have shorter : t.dropLast.length < t.length := by
      have : t.length ≠ 0 := fun e => by simp [List.eq_nil_of_length_eq_zero e] at last
      rw [List.length_dropLast]
      omega
    exact ⟨fun h => absurd (congrArg List.length h) (Nat.ne_of_lt shorter), fun h => absurd last h⟩
  · simpa

/-- Nothing is trimmed exactly if the text ends in neither of the two. -/
theorem trim_eq_self_iff : trim t = t ↔ t.getLast? ≠ some '?' ∧ t.getLast? ≠ some '/' := by
  rw [← dropLastIf_eq_self_iff, ← dropLastIf_eq_self_iff]
  constructor
  · intro h
    -- both cuts leave a start of the text, so neither may shorten it
    have whole : t <+: dropLastIf '?' t := by
      have second := dropLastIf_isPrefix '/' (dropLastIf '?' t)
      rwa [show dropLastIf '/' (dropLastIf '?' t) = t from h] at second
    have first : dropLastIf '?' t = t :=
      (dropLastIf_isPrefix '?' t).eq_of_length_le whole.length_le
    refine ⟨first, ?_⟩
    rw [trim, first] at h
    exact h
  · rintro ⟨first, second⟩
    rw [trim, first, second]

/-! ## What trimming keeps -/

/-- What a text keeps when it loses a slash or a question mark at its end, it keeps when it is trimmed. -/
theorem trim_of_dropLast {P : Text → Prop} (drop : ∀ c u, c = '/' ∨ c = '?' → P (u ++ [c]) → P u) (h : P t) :
    P (trim t) := by
  have step : ∀ c u, c = '/' ∨ c = '?' → P u → P (dropLastIf c u) := by
    intro c u hc hu
    unfold dropLastIf
    split
    · rename_i last
      rw [← List.dropLast_append_getLast? c last] at hu
      exact drop c _ hc hu
    · exact hu
  exact step '/' _ (Or.inl rfl) (step '?' t (Or.inr rfl) h)

/-- Trimming takes nothing from the scheme and the host. -/
theorem hasHost_trim (h : Url.HasHost t) : Url.HasHost (trim t) := by
  refine trim_of_dropLast (fun c u hc host => ?_) h
  obtain ⟨p, hp⟩ := host
  obtain ⟨q, hq, _⟩ := Url.wellFormed_dropLast hc hp
  exact ⟨q, hq⟩

end Untrack.Sanitizer
