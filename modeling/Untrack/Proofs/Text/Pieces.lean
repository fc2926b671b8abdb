/-
  Untrack.Proofs.Text.Pieces — the pieces of a text. What holds of texts without separators, and goes on to hold when one
  is put before a text with a separator between them, holds of all texts (`induction_on_pieces`). Pieces hold no separator
  and nothing that is not in the text. Joined again they are the text (`intercalate_pieces`), and texts without separators
  are the pieces of what they are joined to (`pieces_intercalate`). Fewer texts make up a part of what all of them do
  (`intercalate_sublist`), and if a text goes on, only its last piece does (`dropLast_pieces_prefix`).
-/

import Untrack.Text.Basic

namespace Untrack.Text

/-! ## Texts cut into pieces -/

/-- A text is its only piece, or its first piece goes before a separator and the rest. -/
@[elab_as_elim]
theorem induction_on_pieces (p : Char → Bool) {motive : Text → Prop} (t : Text)
    (last : ∀ w, (∀ c ∈ w, p c = false) → motive w)
    (more : ∀ w s r, (∀ c ∈ w, p c = false) → p s = true → motive r → motive (w ++ s :: r)) : motive t := by
  -- along the text, with what was read of a piece that may go on
  have after : ∀ w, (∀ c ∈ w, p c = false) → motive (w ++ t) := by
    induction t with
    | nil =>
      intro w free
      rw [List.append_nil]
      exact last w free
    | cons c r ih =>
      intro w free
      by_cases hc : p c = true
      · exact more w c r free hc (ih [] (List.forall_mem_nil _))
      · have longer : ∀ d ∈ w ++ [c], p d = false := by
          intro d hd
          rcases List.mem_append.mp hd with hd | hd
          · exact free d hd
          · rw [List.mem_singleton.mp hd]
            exact Bool.not_eq_true _ ▸ hc
        rw [List.append_cons]
        exact ih (w ++ [c]) longer
  exact after [] (List.forall_mem_nil _)

theorem pieces_append_separator {p : Char → Bool} {w : Text} (free : ∀ c ∈ w, p c = false) {s : Char} (hs : p s = true)
    (r : Text) : pieces p (w ++ s :: r) = w :: pieces p r := by
  rw [pieces_append_cons hs, pieces_of_none free, List.singleton_append]

theorem of_mem_pieces {p : Char → Bool} {t w : Text} (h : w ∈ pieces p t) {c : Char} (hc : c ∈ w) :
    p c = false ∧ c ∈ t := by
  induction t using induction_on_pieces p with
  | last v free =>
    rw [pieces_of_none free, List.mem_singleton] at h
    subst h
    exact ⟨free c hc, hc⟩
  | more v s r free hs ih =>
    rw [pieces_append_separator free hs] at h
    rcases List.mem_cons.mp h with rfl | h
    · exact ⟨free c hc, List.mem_append_left _ hc⟩
    · obtain ⟨apart, mem⟩ := ih h
      exact ⟨apart, List.mem_append_right _ (List.mem_cons_of_mem _ mem)⟩

/-- Of a text that goes on, all pieces but the last stay as they are. -/
theorem dropLast_pieces_prefix (p : Char → Bool) {t u : Text} (h : t <+: u) :
    (pieces p t).dropLast <+: (pieces p u).dropLast := by
  obtain ⟨rest, rfl⟩ := h
  induction t using induction_on_pieces p with
  | last w free =>
    rw [pieces_of_none free]
    exact List.nil_prefix
  | more w s r free hs ih =>
    rw [List.append_assoc, List.cons_append, pieces_append_separator free hs, pieces_append_separator free hs,
      List.dropLast_cons_of_ne_nil (pieces_ne_nil p r), List.dropLast_cons_of_ne_nil (pieces_ne_nil p _)]
    exact (List.prefix_cons_inj _).mpr ih

/-! ## Texts joined -/

theorem mem_intercalate {s c : Char} {ws : List Text} (h : c ∈ [s].intercalate ws) : c = s ∨ ∃ w ∈ ws, c ∈ w := by
  induction ws with
  | nil => cases h
  | cons w ws ih =>
    cases ws with
    | nil => exact Or.inr ⟨w, List.mem_cons_self, by simpa using h⟩
    | cons v vs =>
      rw [List.intercalate_cons_cons, List.append_assoc, List.mem_append, List.singleton_append, List.mem_cons] at h
      rcases h with h | rfl | h
      · exact Or.inr ⟨w, List.mem_cons_self, h⟩
      · exact Or.inl rfl
      · rcases ih h with h | ⟨x, hx, h⟩
        · exact Or.inl h
        · exact Or.inr ⟨x, List.mem_cons_of_mem _ hx, h⟩

theorem pieces_intercalate {p : Char → Bool} {s : Char} (hs : p s = true) {ws : List Text} (hne : ws ≠ [])
    (h : ∀ w ∈ ws, ∀ c ∈ w, p c = false) : pieces p ([s].intercalate ws) = ws := by
  induction ws with
  | nil => exact absurd rfl hne
  | cons w ws ih =>
    obtain ⟨free, others⟩ := List.forall_mem_cons.mp h
    cases ws with
    | nil => rw [List.intercalate_singleton, pieces_of_none free]
    | cons v vs =>
      rw [List.intercalate_cons_cons, List.append_assoc, List.singleton_append, pieces_append_separator free hs,
        ih (by simp) others]

theorem intercalate_pieces (s : Char) (t : Text) : [s].intercalate (pieces (· == s) t) = t := by
  induction t using induction_on_pieces (· == s) with
  | last w free => rw [pieces_of_none free, List.intercalate_singleton]
  | more w c r free hc ih =>
    have same : c = s := by simpa using hc
    rw [pieces_append_separator free hc, List.intercalate_cons_of_ne_nil (pieces_ne_nil _ r), ih, same]
    simp

theorem intercalate_sublist (s : Char) {ws vs : List Text} (h : ws.Sublist vs) :
    ([s].intercalate ws).Sublist ([s].intercalate vs) := by
  induction h with
  | slnil => exact List.Sublist.refl _
  | @cons ws vs v h ih =>
    cases vs with
    | nil =>
      rw [List.sublist_nil.mp h]
      exact List.nil_sublist _
    | cons u us =>
      rw [List.intercalate_cons_cons]
      exact List.sublist_append_of_sublist_right ih
  | @cons_cons ws vs v h ih =>
    cases ws with
    | nil =>
      rw [List.intercalate_singleton]
      cases vs with
      | nil => simp
      | cons u us =>
        rw [List.intercalate_cons_cons, List.append_assoc]
        exact List.sublist_append_left _ _
    | cons w ws =>
      have more : vs ≠ [] := by
        intro none
        rw [none] at h
        cases h
      rw [List.intercalate_cons_of_ne_nil (by simp), List.intercalate_cons_of_ne_nil more]
      exact (List.append_sublist_append_left _).mpr ih

end Untrack.Text
