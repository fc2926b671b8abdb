/-
  Untrack.Proofs.Message.Extraction — finding the links of a text keeps to its parts (`links_of_parts`). The links of
  texts with a separator between them are those of each, and a text without separators is a link or has none
  (`FindsLinks`). These two laws leave nothing open (`FindsLinks.unique`), whatever separators a text has and wherever
  they stand. So texts that are joined have the links of each, and links that are joined are found again.
-/

import Untrack.Proofs.Message.Links

namespace Untrack.Message

/-- What finding the links of a text comes to, where it is cut at a separator and where there is nothing to cut. -/
structure FindsLinks (find : Text → List Text) : Prop where
  apart : ∀ a b s, s = ' ' ∨ s = '\n' → find (a ++ s :: b) = find a ++ find b
  alone : ∀ t, ' ' ∉ t → '\n' ∉ t →
    find t = if "http://".toList <+: t ∨ "https://".toList <+: t then [t] else []

variable {find other : Text → List Text} {s : Char} {t u : Text}

/-! ## Separators and beginnings -/

theorem isSeparator_iff : isSeparator s = true ↔ s = ' ' ∨ s = '\n' := by simp [isSeparator]

theorem free_iff : (∀ c ∈ t, isSeparator c = false) ↔ ' ' ∉ t ∧ '\n' ∉ t := by
  constructor
  · intro free
    refine ⟨fun hm => ?_, fun hm => ?_⟩
    · cases free _ hm
    · cases free _ hm
  · rintro ⟨space, newline⟩ c hc
    rw [← Bool.not_eq_true, isSeparator_iff]
    rintro (rfl | rfl)
    · exact space hc
    · exact newline hc

theorem isLink_iff_prefix : isLink t = true ↔ "http://".toList <+: t ∨ "https://".toList <+: t := by
  unfold isLink Text.startsWith
  rw [Bool.or_eq_true, List.isPrefixOf_iff_prefix, List.isPrefixOf_iff_prefix, or_comm]
  rfl

/-! ## The two laws -/

theorem findsLinks_links : FindsLinks links where
  apart a b s hs := links_append_cons (isSeparator_iff.mpr hs) a b
  alone t space newline := by
    rw [links, Text.pieces_of_none (free_iff.mpr ⟨space, newline⟩), List.filter_singleton, cond_eq_ite]
    exact if_congr isLink_iff_prefix rfl rfl

/-- Nothing else finds links: along the text, piece by piece. -/
theorem FindsLinks.unique (h : FindsLinks find) (k : FindsLinks other) (t : Text) : find t = other t := by
  have piece : ∀ w, (∀ c ∈ w, isSeparator c = false) → find w = other w := by
    intro w free
    obtain ⟨space, newline⟩ := free_iff.mp free
    rw [h.alone w space newline, k.alone w space newline]
  induction t using Text.induction_on_pieces isSeparator with
  | last w free => exact piece w free
  | more w s r free hs ih =>
    have hs := isSeparator_iff.mp hs
    rw [h.apart w r s hs, k.apart w r s hs, piece w free, ih]

/-- Texts that are joined have the links of each. -/
theorem FindsLinks.intercalate (h : FindsLinks find) (hs : s = ' ' ∨ s = '\n') (texts : List Text) :
    find ([s].intercalate texts) = texts.flatMap find := by
  induction texts with
  | nil => exact h.alone [] List.not_mem_nil List.not_mem_nil
  | cons t texts ih =>
    cases texts with
    | nil => simp
    | cons u texts =>
      rw [List.intercalate_cons_cons, List.append_assoc, List.singleton_append, h.apart t _ s hs, ih]
      rfl

/-- The links of texts line by line are those of each text. -/
theorem links_intercalate (texts : List Text) : links (['\n'].intercalate texts) = texts.flatMap links :=
  findsLinks_links.intercalate (Or.inr rfl) texts

/-- Links that are joined are found again. -/
theorem links_intercalate_links (hs : s = ' ' ∨ s = '\n') (t : Text) :
    links ([s].intercalate (links t)) = links t := by
  have each : (links t).flatMap links = (links t).flatMap fun u => [u] :=
    List.flatMap_congr fun u hu => links_of_mem hu
  rw [findsLinks_links.intercalate hs, each, List.flatMap_singleton']

/-- Finding links keeps to the parts of a text: where a separator stands the links of both sides are found, and a text
without separators is a link or has none, as it begins. No other function does this. So texts joined line by line have
the links of each, no link has a separator in it, and links that are joined are found again. -/
theorem links_of_parts :
    FindsLinks links ∧ (∀ find, FindsLinks find → ∀ t, find t = links t) ∧
      (∀ texts : List Text, links (['\n'].intercalate texts) = texts.flatMap links) ∧
      (∀ t, ∀ u ∈ links t, ' ' ∉ u ∧ '\n' ∉ u) ∧
      ∀ t s, s = ' ' ∨ s = '\n' → links ([s].intercalate (links t)) = links t := by
  refine ⟨findsLinks_links, fun find h => h.unique findsLinks_links, links_intercalate, ?_, ?_⟩
  · intro t u hu
    exact free_iff.mp (links_eq_self_iff.mp (links_of_mem hu)).1
  · intro t s hs
    exact links_intercalate_links hs t

/-- A letter with links between several separators and one inside a word, and an answer that is a link and no more. -/
theorem letter_and_answer :
    let letter := " see  http://a.example/x\n\n(https://b.example) ".toList
    let answer := "https://c.example".toList
    let found := ["http://a.example/x".toList, answer]
    (' ' ∉ answer ∧ '\n' ∉ answer ∧ links answer = [answer]) ∧ links (letter ++ '\n' :: answer) = found ∧
      links (['\n'].intercalate [letter, [], answer]) = found ∧ (∀ u ∈ found, ' ' ∉ u ∧ '\n' ∉ u) ∧
      links ([' '].intercalate found) = found := by
  intro letter answer found
  obtain ⟨⟨apart, alone⟩, _, joined, free, again⟩ := links_of_parts
  have space : ' ' ∉ answer := by decide
  have newline : '\n' ∉ answer := by decide
  have one : links answer = [answer] := (alone answer space newline).trans (if_pos (by decide))
  have first : links letter = ["http://a.example/x".toList] := by decide
  have both : links (letter ++ '\n' :: answer) = found := by
    rw [apart letter answer '\n' (Or.inr rfl), first, one]
    rfl
  have lines : links (['\n'].intercalate [letter, [], answer]) = found := by
    rw [joined, List.flatMap_cons, first, List.flatMap_cons, List.flatMap_singleton, one]
    rfl
  have same := again (letter ++ '\n' :: answer) ' ' (Or.inl rfl)
  rw [both] at same
  exact ⟨⟨space, newline, one⟩, both, lines, fun u hu => free (letter ++ '\n' :: answer) u (both ▸ hu), same⟩

end Untrack.Message
