/-
  Untrack.Proofs.Text.Cuts — what cutting a text at the first of a character gives, and that the parts make up the
  text.
-/

import Mathlib.Data.List.TakeWhile
import Untrack.Text.Basic

namespace Untrack.Text

theorem not_mem_before (c : Char) (t : Text) : c ∉ t.before c := by
  intro h
  have := List.mem_takeWhile_imp h
  simp at this

theorem before_of_not_mem {c : Char} {t : Text} (h : c ∉ t) : t.before c = t :=
  List.takeWhile_eq_self_iff.mpr fun d hd => by simpa using fun e : d = c => h (e ▸ hd)

theorem after?_of_not_mem {c : Char} {t : Text} (h : c ∉ t) : t.after? c = none := by
  have : t.dropWhile (· != c) = [] :=
    List.dropWhile_eq_nil_iff.mpr fun d hd => by simpa using fun e : d = c => h (e ▸ hd)
  rw [after?, this]
  rfl

/-- A text is cut at the first of a character. -/
theorem before_append_cons {c : Char} {a : Text} (h : c ∉ a) (b : Text) : (a ++ c :: b).before c = a := by
  have stop : (c :: b).takeWhile (· != c) = [] := by simp
  rw [before, List.takeWhile_append_of_pos (fun d hd => by simpa using fun e : d = c => h (e ▸ hd)), stop,
    List.append_nil]

theorem after?_append_cons {c : Char} {a : Text} (h : c ∉ a) (b : Text) : (a ++ c :: b).after? c = some b := by
  have stop : (c :: b).dropWhile (· != c) = c :: b := by simp
  rw [after?, List.dropWhile_append_of_pos (fun d hd => by simpa using fun e : d = c => h (e ▸ hd)), stop]
  rfl

/-- The parts on both sides of a cut make up the text. -/
theorem before_append_after? {c : Char} {t b : Text} (h : t.after? c = some b) : t = t.before c ++ c :: b := by
  have whole : t.before c ++ t.dropWhile (· != c) = t := List.takeWhile_append_dropWhile
  rw [after?] at h
  cases hd : t.dropWhile (· != c) with
  | nil => simp [hd] at h
  | cons d r =>
    have hc : d = c := by simpa [hd] using List.head_dropWhile_not (· != c) (l := t) (by simp [hd])
    rw [hd, List.tail?_cons, Option.some.injEq] at h
    rw [hd, hc, h] at whole
    exact whole.symm

theorem mem_of_mem_before {c d : Char} {t : Text} (h : d ∈ t.before c) : d ∈ t := (List.takeWhile_sublist _).mem h

theorem mem_of_mem_after? {c d : Char} {t : Text} (h : d ∈ (t.after? c).getD []) : d ∈ t := by
  cases hb : t.after? c with
  | none => simp [hb] at h
  | some b =>
    rw [hb] at h
    rw [before_append_after? hb]
    exact List.mem_append_right _ (List.mem_cons_of_mem _ h)

end Untrack.Text
