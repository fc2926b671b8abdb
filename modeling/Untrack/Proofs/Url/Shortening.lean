/-
  Untrack.Proofs.Url.Shortening — URLs made shorter. Putting a well-formed URL together again, with its query or a part
  of it, takes characters out of it and brings its scheme to lower case, and nothing else (`thins_render`). One that
  loses a slash or a question mark at its end loses it from what follows its authority: it stays well-formed, and its
  query is a start of the query it had (`wellFormed_dropLast`).
-/

import Untrack.Proofs.Text.Shrinks
import Untrack.Proofs.Url.Reassembly

namespace Untrack

namespace Text

variable {c : Char} {t u : Text}

/-- What a delimiter cuts a text into makes up no more than the text. -/
theorem before_append_marked_sublist (c : Char) (t : Text) :
    (t.before c ++ Url.marked c ((t.after? c).getD [])).Sublist t := by
  cases h : t.after? c with
  | none =>
    show (t.before c ++ []).Sublist t
    rw [List.append_nil]
    exact List.takeWhile_sublist _
  | some b =>
    have part : (Url.marked c b).Sublist (c :: b) := by
      unfold Url.marked
      split
      · exact List.nil_sublist _
      · exact List.Sublist.refl _
    have whole := part.append_left (t.before c)
    rwa [← before_append_after? h] at whole

theorem before_prefix (h : t <+: u) (c : Char) : t.before c <+: u.before c := by
  obtain ⟨rest, rfl⟩ := h
  unfold before
  rw [List.takeWhile_append]
  split
  · exact (List.takeWhile_prefix _).trans (List.prefix_append _ _)
  · exact List.prefix_rfl

theorem after?_prefix (h : t <+: u) (c : Char) : (t.after? c).getD [] <+: (u.after? c).getD [] := by
  cases ht : t.after? c with
  | none => exact List.nil_prefix
  | some b =>
    obtain ⟨rest, rfl⟩ := h
    have cut : t ++ rest = t.before c ++ c :: (b ++ rest) := by
      rw [← List.cons_append, ← List.append_assoc, ← before_append_after? ht]
    rw [cut, after?_append_cons (not_mem_before c t)]
    exact List.prefix_append b rest

end Text

namespace Url

variable {url : Text} {p : Parts}

/-! ## Lengths -/

theorem marked_sublist {c : Char} {a b : Text} (h : a.Sublist b) : (marked c a).Sublist (marked c b) := by
  cases a with
  | nil => exact List.nil_sublist _
  | cons d a =>
    cases b with
    | nil => cases h
    | cons e b => exact h.cons_cons c

/-- Putting a well-formed URL together again, with a part of its query, takes characters out of it, and its scheme is
in lower case. -/
theorem thins_render {q : Text} (h : wellFormed url = .ok p) (hq : ({ p with query := q } : Parts).Canonical)
    (part : q.Sublist p.query) : url.Thins ({ p with query := q } : Parts).render := by
  obtain ⟨scheme, authority, rest, reads, rfl⟩ := wellFormed_iff.mp h
  have counted : (cleaned url).Sublist url := List.filter_sublist.trans (List.dropWhile_sublist _)
  refine Text.Thins.trans (.of_sublist counted) ?_
  -- what follows the authority is cut at the fragment, and what stands before that at the query
  have tail : ({ Parts.ofRest scheme authority rest with query := q } : Parts).tail.Sublist rest := by
    have query := (marked_sublist (c := '?') part).append_left ((rest.before '#').before '?')
    have body := query.trans (Text.before_append_marked_sublist '?' (rest.before '#'))
    exact (body.append_right _).trans (Text.before_append_marked_sublist '#' rest)
  have lower : ((scheme.map Char.toLower).map Char.toLower) = scheme.map Char.toLower := by
    rw [List.map_map]
    exact List.map_congr_left fun c _ => Char.toLower_toLower_eq_toLower c
  rw [reads.text, hq.render_eq, Text.Thins]
  simp only [List.map_append, List.map_cons]
  rw [show (Parts.ofRest scheme authority rest).scheme = scheme.map Char.toLower from rfl, lower]
  have after := (tail.map Char.toLower).append_left (authority.map Char.toLower)
  exact (((after.cons_cons _).cons_cons _).cons_cons _).append_left _

/-- With a shorter query it gets shorter. -/
theorem length_render_withQuery {q : Text} (h : wellFormed url = .ok p) (hq : ({ p with query := q } : Parts).Canonical)
    (shorter : q.length < p.query.length) : ({ p with query := q } : Parts).render.length < url.length := by
  have canonical := canonical_of_wellFormed h
  have whole := (thins_render h canonical (List.Sublist.refl p.query)).length_le
  rw [canonical.render_eq] at whole
  have marked_lt : (marked '?' q).length < (marked '?' p.query).length := by
    unfold marked
    cases hp : p.query with
    | nil =>
      rw [hp] at shorter
      cases shorter
    | cons c r =>
      rw [hp] at shorter
      split <;> simp_all
  rw [hq.render_eq]
  simp only [Parts.tail, List.length_append, List.length_cons] at whole ⊢
  omega

/-! ## The last character -/

theorem cleaned_concat {c : Char} (hl : isLeading c = false) (hr : isRemoved c = false) (t : Text) :
    cleaned (t ++ [c]) = cleaned t ++ [c] := by
  unfold cleaned
  rw [List.dropWhile_append]
  split
  · rename_i h
    rw [List.isEmpty_iff.mp h]
    simp [hl, hr]
  · simp [hr]

/-- A slash or question mark at the end of a well-formed URL is not needed, and its query may only lose its end. -/
theorem wellFormed_dropLast {c : Char} (hc : c = '/' ∨ c = '?') (h : wellFormed (url ++ [c]) = .ok p) :
    ∃ q, wellFormed url = .ok q ∧ q.query <+: p.query := by
  obtain ⟨scheme, authority, rest, reads, rfl⟩ := wellFormed_iff.mp h
  have ends : endsAuthority c = true := by rcases hc with rfl | rfl <;> decide
  have text := reads.text
  rw [cleaned_concat (by rcases hc with rfl | rfl <;> decide) (by rcases hc with rfl | rfl <;> decide)] at text
  -- the authority has no such character at its end, so the rest has
  obtain ⟨front, rfl⟩ : ∃ front, rest = front ++ [c] := by
    have last : (authority ++ rest).getLast? = some c := by
      have start : cleaned url ++ [c] = (scheme ++ [':', '/', '/']) ++ (authority ++ rest) := by rw [text]; simp
      rw [← List.getLast?_append_of_ne_nil _ (by simp [reads.host]), ← start, List.getLast?_concat]
    rcases List.eq_nil_or_concat rest with rfl | ⟨front, d, rfl⟩
    · rw [List.append_nil] at last
      have := reads.inside c (List.mem_of_getLast? last)
      rw [ends] at this
      cases this
    · rw [List.concat_eq_append, ← List.append_assoc, List.getLast?_concat] at last
      cases last
      exact ⟨front, List.concat_eq_append⟩
  have shorter : cleaned url = scheme ++ ':' :: '/' :: '/' :: (authority ++ front) := by
    have both : cleaned url ++ [c] = (scheme ++ ':' :: '/' :: '/' :: (authority ++ front)) ++ [c] := by rw [text]; simp
    exact List.append_cancel_right both
  have stop : ∀ d, front.head? = some d → endsAuthority d = true := fun d hd =>
    reads.stop d (by rw [List.head?_append, hd]; rfl)
  refine ⟨_, wellFormed_iff.mpr ⟨scheme, authority, front, { reads with text := shorter, stop := stop }, rfl⟩, ?_⟩
  exact Text.after?_prefix (Text.before_prefix (List.prefix_append front [c]) '#') '?'

end Url
end Untrack
