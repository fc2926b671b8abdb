/-
  Untrack.Proofs.Message.Links — texts that are one link, those whose only link is the text itself: they have no
  separator in them and start as a link does (`links_eq_self_iff`). Each link of a message is one, and so is what taking
  out parameters leaves of one (`links_clean`). A link that is trimmed is one if it has a host (`links_trim`).

  Both rest on the scheme: a link with a host is read as a URL of the scheme `http` or `https`, and every URL of these
  schemes that is put together starts as a link.
-/

import Untrack.Message
import Untrack.Proofs.Query.Shortening
import Untrack.Proofs.Sanitizer.Trim

namespace Untrack

/-- A character that is no letter was there before. -/
theorem Text.Thins.mem {before after : Text} (h : before.Thins after) {c : Char} (hc : c ∈ after)
    (plain : c.isAlpha = false) : c ∈ before := by
  have fixed : ∀ d : Char, d.isAlpha = false → d.toLower = d := fun d hd =>
    Char.toLower_eq_of_not_isUpper fun hu => by simp [Char.isAlpha, hu] at hd
  have lowered : c ∈ before.map Char.toLower := h.subset (fixed c plain ▸ List.mem_map_of_mem hc)
  obtain ⟨d, hd, e⟩ := List.mem_map.mp lowered
  have same : d.toLower = d := fixed d (by rw [← Char.isAlpha_toLower_eq_isAlpha, e, plain])
  rwa [← e, same]

namespace Message

variable {t u : Text}

/-! ## One link -/

theorem isLink_iff : isLink t = true ↔
    ∃ scheme rest, (scheme = "http".toList ∨ scheme = "https".toList) ∧ t = scheme ++ ':' :: '/' :: '/' :: rest := by
  unfold isLink Text.startsWith
  rw [Bool.or_eq_true, List.isPrefixOf_iff_prefix, List.isPrefixOf_iff_prefix]
  constructor
  · rintro (⟨rest, rfl⟩ | ⟨rest, rfl⟩)
    · exact ⟨_, rest, Or.inr rfl, rfl⟩
    · exact ⟨_, rest, Or.inl rfl, rfl⟩
  · rintro ⟨_, rest, rfl | rfl, rfl⟩
    · exact Or.inr ⟨rest, rfl⟩
    · exact Or.inl ⟨rest, rfl⟩

theorem isLink_of_prefix (h : isLink t = true) (more : t <+: u) : isLink u = true := by
  obtain ⟨scheme, rest, known, rfl⟩ := isLink_iff.mp h
  obtain ⟨end_, rfl⟩ := more
  exact isLink_iff.mpr ⟨scheme, rest ++ end_, known, by simp⟩

theorem links_eq_self_iff : links t = [t] ↔ (∀ c ∈ t, isSeparator c = false) ∧ isLink t = true := by
  constructor
  · intro h
    have found : t ∈ (t.pieces isSeparator).filter isLink := by
      show t ∈ links t
      rw [h]
      exact List.mem_singleton_self t
    obtain ⟨piece, link⟩ := List.mem_filter.mp found
    exact ⟨fun c hc => (Text.of_mem_pieces piece hc).1, link⟩
  · rintro ⟨whole, link⟩
    rw [links, Text.pieces_of_none whole, List.filter_singleton, link]
    rfl

/-- Each link of a message is one link. -/
theorem links_of_mem (h : u ∈ links t) : links u = [u] := by
  obtain ⟨piece, link⟩ := List.mem_filter.mp h
  exact links_eq_self_iff.mpr ⟨fun c hc => (Text.of_mem_pieces piece hc).1, link⟩

/-- The links of texts with a separator between them are those of each. -/
theorem links_append_cons {c : Char} (hc : isSeparator c = true) (t u : Text) :
    links (t ++ c :: u) = links t ++ links u := by
  rw [links, Text.pieces_append_cons hc, List.filter_append]
  rfl

theorem newline_not_mem (h : links u = [u]) : '\n' ∉ u := fun hm => by
  have := (links_eq_self_iff.mp h).1 _ hm
  cases this

/-! ## Links with a host -/

theorem scheme_of_isLink {p : Url.Parts} (h : Url.wellFormed u = .ok p) (link : isLink u = true) :
    p.scheme = "http".toList ∨ p.scheme = "https".toList := by
  obtain ⟨scheme, authority, rest, reads, rfl⟩ := Url.wellFormed_iff.mp h
  obtain ⟨start, after, known, rfl⟩ := isLink_iff.mp link
  -- nothing goes from the start of a link, so its first colon ends its scheme
  have text : Url.cleaned (start ++ ':' :: '/' :: '/' :: after) =
      start ++ ':' :: '/' :: '/' :: after.filter (!Url.isRemoved ·) := by
    rcases known with rfl | rfl <;> rfl
  have colon : ':' ∉ scheme := by
    obtain ⟨_, _, _, _, all⟩ := Url.isScheme_cons reads.scheme
    exact fun hm => Url.ne_of_isSchemeChar (all _ hm) (by decide) rfl
  have first : ':' ∉ start := by rcases known with rfl | rfl <;> decide
  have same : scheme = start := by
    rw [← Text.before_append_cons colon ('/' :: '/' :: (authority ++ rest)), ← reads.text, text,
      Text.before_append_cons first]
  show scheme.map Char.toLower = _ ∨ scheme.map Char.toLower = _
  rw [same]
  exact known.imp (fun e => by rw [e]; rfl) (fun e => by rw [e]; rfl)

theorem isLink_render {p : Url.Parts} (h : p.Canonical) (known : p.scheme = "http".toList ∨ p.scheme = "https".toList) :
    isLink p.render = true :=
  isLink_iff.mpr ⟨p.scheme, p.authority ++ p.tail, known, h.render_eq⟩

/-- The text is one link unless it has no host. -/
structure LinkIfHosted (t : Text) : Prop where
  whole : ∀ c ∈ t, isSeparator c = false
  link : ∀ p, Url.wellFormed t = .ok p → isLink t = true

theorem linkIfHosted (h : links t = [t]) : LinkIfHosted t :=
  ⟨(links_eq_self_iff.mp h).1, fun _ _ => (links_eq_self_iff.mp h).2⟩

theorem linkIfHosted_of_refused {reason : Url.Refusal} (whole : ∀ c ∈ t, isSeparator c = false)
    (refused : Url.wellFormed t = .error reason) : LinkIfHosted t :=
  ⟨whole, fun p hp => by rw [refused] at hp; cases hp⟩

theorem LinkIfHosted.links (h : LinkIfHosted t) {p : Url.Parts} (host : Url.wellFormed t = .ok p) : links t = [t] :=
  links_eq_self_iff.mpr ⟨h.whole, h.link p host⟩

/-- What taking out parameters leaves of a link is one link. -/
theorem links_clean {ps : List Pattern} (ht : LinkIfHosted t) (h : Query.clean ps t = .ok u) : links u = [u] := by
  have whole : ∀ c ∈ u, isSeparator c = false := by
    intro c hc
    by_contra hs
    have plain : c.isAlpha = false := by
      rcases (Bool.or_eq_true _ _).mp (Bool.not_eq_false _ ▸ hs) with h | h <;> rw [eq_of_beq h] <;> rfl
    exact hs (ht.whole c ((Query.clean_thins h).mem hc plain))
  obtain ⟨p, hp, rfl | ⟨q, _, canonical, rfl⟩⟩ := Query.clean_eq_or_render h
  · exact ht.links hp
  · have known := scheme_of_isLink hp (ht.link p hp)
    exact links_eq_self_iff.mpr ⟨whole, isLink_render canonical known⟩

/-! ## Trimmed links -/

/-- A link without its last character is one, unless that is the second slash before its host. -/
theorem links_dropLast (h : links u = [u]) :
    links u.dropLast = [u.dropLast] ∨ u = "http://".toList ∨ u = "https://".toList := by
  obtain ⟨whole, link⟩ := links_eq_self_iff.mp h
  obtain ⟨scheme, rest, known, rfl⟩ := isLink_iff.mp link
  by_cases more : rest = []
  · right
    rw [more]
    exact known.imp (fun e => by rw [e]; rfl) (fun e => by rw [e]; rfl)
  · left
    have shorter : (scheme ++ ':' :: '/' :: '/' :: rest).dropLast = scheme ++ ':' :: '/' :: '/' :: rest.dropLast := by
      rw [List.dropLast_append_of_ne_nil (by simp)]
      simp [List.dropLast_cons_of_ne_nil, more]
    exact links_eq_self_iff.mpr ⟨fun c hc => whole c (List.dropLast_subset _ hc),
      isLink_iff.mpr ⟨scheme, rest.dropLast, known, shorter⟩⟩

/-- Only the slashes before a host that is missing are trimmed so that no link is left. -/
theorem linkIfHosted_trim (h : links u = [u]) : LinkIfHosted (Sanitizer.trim u) := by
  have once : links (Sanitizer.dropLastIf '?' u) = [Sanitizer.dropLastIf '?' u] := by
    unfold Sanitizer.dropLastIf
    split
    · rcases links_dropLast h with h | rfl | rfl
      · exact h
      · exact absurd ‹_ = some '?'› (by decide)
      · exact absurd ‹_ = some '?'› (by decide)
    · exact h
  unfold Sanitizer.trim
  generalize Sanitizer.dropLastIf '?' u = v at once
  unfold Sanitizer.dropLastIf
  split
  · have whole : ∀ c ∈ v.dropLast, isSeparator c = false := fun c hc =>
      (links_eq_self_iff.mp once).1 c (List.dropLast_subset v hc)
    have http : Url.wellFormed "http:/".toList = .error .notWellFormed := by decide +kernel
    have https : Url.wellFormed "https:/".toList = .error .notWellFormed := by decide +kernel
    rcases links_dropLast once with h | rfl | rfl
    · exact linkIfHosted h
    · exact linkIfHosted_of_refused whole http
    · exact linkIfHosted_of_refused whole https
  · exact linkIfHosted once

/-- A link with a host stays one when it is trimmed. -/
theorem links_trim (host : Url.HasHost u) (h : links u = [u]) : links (Sanitizer.trim u) = [Sanitizer.trim u] := by
  obtain ⟨_, kept⟩ := Sanitizer.hasHost_trim host
  exact (linkIfHosted_trim h).links kept

end Message
end Untrack
