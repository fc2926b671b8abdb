/-
  Untrack.Proofs.Query.Shortening — when there is nothing to drop from a URL's query (`Spared`). Taking parameters out
  leaves such a URL as it is and puts any other together again (`clean_ok`), which makes it shorter (`clean_cases`), and
  then there is nothing more to take out (`spared_of_clean`). If a URL loses a slash or a question mark at its end, only
  the last segment of its query may become one to take out (`SparedButLast.dropLast`).
-/

import Untrack.Proofs.Query.Filter
import Untrack.Proofs.Url.Shortening

namespace Untrack

/-- Each piece counts for its length and a separator, the text for one separator more than it has. -/
theorem Text.length_pieces (p : Char → Bool) (t : Text) : ((pieces p t).map (·.length + 1)).sum = t.length + 1 := by
  induction t using induction_on_pieces p with
  | last w free => simp [pieces_of_none free]
  | more w s r free hs ih =>
    rw [pieces_append_separator free hs, List.map_cons, List.sum_cons, ih, List.length_append, List.length_cons]
    omega

namespace Query

variable {ps qs : List Pattern} {url u : Text} {parts : Url.Parts}

/-- The URL is well-formed and has no parameters to take out. -/
def Spared (ps : List Pattern) (url : Text) : Prop :=
  ∃ parts, Url.wellFormed url = .ok parts ∧
    (ps = [] ∨ parts.query = [] ∨ ∀ s ∈ segments parts.query, isKept ps s = true)

theorem clean_of_spared (h : Spared ps url) : clean ps url = .ok url := by
  obtain ⟨parts, hp, h⟩ := h
  rw [clean_of_wellFormed hp, without]
  split
  · rfl
  rw [keepOnly_of_split (Url.wellFormed_ok.mp hp).1, if_pos]
  rcases h with h | h | h
  · exact absurd h ‹_›
  · exact Or.inl h
  · exact Or.inr (List.filter_eq_self.mpr h)

/-! ## Taking parameters out -/

/-- Dropping texts from a list makes what they count for less, unless none is dropped. -/
theorem filter_cases (keep : Text → Bool) (ws : List Text) :
    ws.filter keep = ws ∨ ((ws.filter keep).map (·.length + 1)).sum < (ws.map (·.length + 1)).sum := by
  induction ws with
  | nil => exact Or.inl rfl
  | cons w ws ih =>
    cases hw : keep w with
    | true =>
      rw [List.filter_cons_of_pos hw]
      rcases ih with h | h
      · exact Or.inl (congrArg _ h)
      · exact Or.inr (by simpa using h)
    | false =>
      rw [List.filter_cons_of_neg (by simp [hw])]
      refine Or.inr ?_
      rcases ih with h | h
      · rw [h]
        simp
      · simp only [List.map_cons, List.sum_cons]
        omega

theorem length_ofSegments_lt {query : Text} {keep : Text → Bool} (hq : query ≠ [])
    (some_go : (segments query).filter keep ≠ segments query) :
    (ofSegments ((segments query).filter keep)).length < query.length := by
  by_cases none : (segments query).filter keep = []
  · rw [none]
    exact List.length_pos_iff.mpr hq
  have left := Text.length_pieces (· == '&') (ofSegments ((segments query).filter keep))
  have back := segments_ofSegments List.filter_sublist.subset none
  unfold segments at left back some_go ⊢
  rw [back] at left
  have whole := Text.length_pieces (· == '&') query
  rcases filter_cases keep (query.pieces (· == '&')) with h | h
  · exact absurd h some_go
  · omega

/-- What taking parameters out comes to: the URL as it was, with none to take out, or put together again with the
segments that stay when some do not. -/
theorem clean_ok (h : clean ps url = .ok u) :
    (u = url ∧ Spared ps url) ∨
      ∃ parts, Url.wellFormed url = .ok parts ∧ parts.query ≠ [] ∧
        (segments parts.query).filter (isKept ps) ≠ segments parts.query ∧
        u = ({ parts with query := ofSegments ((segments parts.query).filter (isKept ps)) } : Url.Parts).render := by
  obtain ⟨parts, hp, _⟩ := except_bind_ok.mp h
  rw [clean_of_wellFormed hp, Except.ok.injEq] at h
  subst h
  unfold without
  split
  · exact Or.inl ⟨rfl, parts, hp, Or.inl ‹_›⟩
  rw [keepOnly_of_split (Url.wellFormed_ok.mp hp).1]
  split
  · rename_i none
    exact Or.inl ⟨rfl, parts, hp, Or.inr (none.imp_right List.filter_eq_self.mp)⟩
  · rename_i some_go
    exact Or.inr ⟨parts, hp, fun e => some_go (Or.inl e), fun e => some_go (Or.inr e), rfl⟩

/-- Parameters are taken out, and the URL gets shorter, or there are none. -/
theorem clean_cases (h : clean ps url = .ok u) : (u = url ∧ Spared ps url) ∨ u.length < url.length := by
  rcases clean_ok h with same | ⟨parts, hp, query, some_go, rfl⟩
  · exact Or.inl same
  · have canonical := canonical_ofSegments (Url.canonical_of_wellFormed hp) (isKept ps)
    exact Or.inr (Url.length_render_withQuery hp canonical (length_ofSegments_lt query some_go))

/-- The URL as it was, or put together again with a part of its query. -/
theorem clean_eq_or_render (h : clean ps url = .ok u) : ∃ parts, Url.wellFormed url = .ok parts ∧
    (u = url ∨ ∃ q, q.Sublist parts.query ∧ ({ parts with query := q } : Url.Parts).Canonical ∧
      u = ({ parts with query := q } : Url.Parts).render) := by
  rcases clean_ok h with ⟨rfl, parts, hp, _⟩ | ⟨parts, hp, _, _, rfl⟩
  · exact ⟨parts, hp, Or.inl rfl⟩
  have part := Text.intercalate_sublist '&' (List.filter_sublist (p := isKept ps) (l := segments parts.query))
  rw [segments, Text.intercalate_pieces] at part
  exact ⟨parts, hp, Or.inr ⟨_, part, canonical_ofSegments (Url.canonical_of_wellFormed hp) (isKept ps), rfl⟩⟩

/-- Taking parameters out, a URL loses them, what goes when it is put together again, and the case of its scheme. -/
theorem clean_thins (h : clean ps url = .ok u) : url.Thins u := by
  obtain ⟨parts, hp, rfl | ⟨q, part, canonical, rfl⟩⟩ := clean_eq_or_render h
  · exact .refl _
  · exact Url.thins_render hp canonical part

/-- What is left when parameters are taken out has none of them. -/
theorem spared_of_clean (h : clean ps url = .ok u) : Spared ps u := by
  rcases clean_ok h with ⟨rfl, spared⟩ | ⟨parts, hp, _, _, rfl⟩
  · exact spared
  have canonical := canonical_ofSegments (Url.canonical_of_wellFormed hp) (isKept ps)
  refine ⟨_, canonical.wellFormed_render, Or.inr (or_iff_not_imp_left.mpr fun left s hs => ?_)⟩
  rw [segments_kept left] at hs
  exact (List.mem_filter.mp hs).2

theorem spared_without (h : Url.wellFormed url = .ok parts) (ps : List Pattern) : Spared ps (without ps url) :=
  spared_of_clean (clean_of_wellFormed h ps)

/-- A URL of which parameters were taken out, or might have been, has a host. -/
theorem hasHost_of_clean (h : clean ps url = .ok u) : Url.HasHost u := by
  obtain ⟨parts, hp, _⟩ := spared_of_clean h
  exact ⟨parts, hp⟩

theorem Spared.subset (h : Spared ps url) (hq : qs ⊆ ps) : Spared qs url := by
  obtain ⟨parts, hp, h⟩ := h
  have kept : ∀ s, isKept ps s = true → isKept qs s = true := by
    intro s hs
    unfold isKept isTracking at hs ⊢
    rw [Bool.and_eq_true, Bool.not_eq_true', Bool.not_eq_true', List.any_eq_false] at hs ⊢
    exact ⟨hs.1, fun p hp => hs.2 p (hq hp)⟩
  refine ⟨parts, hp, ?_⟩
  rcases h with rfl | h | h
  · exact Or.inl (List.subset_nil.mp hq)
  · exact Or.inr (Or.inl h)
  · exact Or.inr (Or.inr fun s hs => kept s (h s hs))

/-! ## The last segment -/

/-- The URL is well-formed and has no parameters to take out, except perhaps the last. -/
def SparedButLast (ps : List Pattern) (url : Text) : Prop :=
  ∃ parts, Url.wellFormed url = .ok parts ∧
    (ps = [] ∨ parts.query = [] ∨ ∀ s ∈ (segments parts.query).dropLast, isKept ps s = true)

/-- The last parameter of the URL, if it has any, stays. -/
def LastSpared (ps : List Pattern) (url : Text) : Prop :=
  ∀ parts, Url.split url = .ok parts → ps = [] ∨ parts.query = [] ∨
    ∀ s, (segments parts.query).getLast? = some s → isKept ps s = true

theorem Spared.butLast (h : Spared ps url) : SparedButLast ps url := by
  obtain ⟨parts, hp, h⟩ := h
  exact ⟨parts, hp, h.imp_right fun h => h.imp_right fun h s hs => h s (List.mem_of_mem_dropLast hs)⟩

theorem spared_iff : Spared ps url ↔ SparedButLast ps url ∧ LastSpared ps url := by
  constructor
  · refine fun h => ⟨h.butLast, fun parts hs => ?_⟩
    obtain ⟨parts', hp, h⟩ := h
    rw [(Url.wellFormed_ok.mp hp).1] at hs
    cases hs
    exact h.imp_right fun h => h.imp_right fun h s hs => h s (List.mem_of_getLast? hs)
  · rintro ⟨⟨parts, hp, front⟩, last⟩
    refine ⟨parts, hp, ?_⟩
    rcases front with h | h | front
    · exact Or.inl h
    · exact Or.inr (Or.inl h)
    rcases last parts (Url.wellFormed_ok.mp hp).1 with h | h | last
    · exact Or.inl h
    · exact Or.inr (Or.inl h)
    refine Or.inr (Or.inr fun s hs => ?_)
    obtain ⟨front', s', hsegs⟩ : ∃ front' s', segments parts.query = front' ++ [s'] := by
      rcases List.eq_nil_or_concat (segments parts.query) with e | ⟨f, l, e⟩
      · exact absurd e (Text.pieces_ne_nil _ _)
      · exact ⟨f, l, by rw [e, List.concat_eq_append]⟩
    rw [hsegs] at front last hs
    rcases List.mem_append.mp hs with hs | hs
    · exact front s (by rwa [List.dropLast_concat])
    · rw [List.mem_singleton.mp hs]
      exact last s' List.getLast?_concat

/-- A slash or question mark less at the end concerns only the last parameter. -/
theorem SparedButLast.dropLast {c : Char} (hc : c = '/' ∨ c = '?') (h : SparedButLast ps (url ++ [c])) :
    SparedButLast ps url := by
  obtain ⟨parts, hp, h⟩ := h
  obtain ⟨left, hl, start⟩ := Url.wellFormed_dropLast hc hp
  refine ⟨left, hl, ?_⟩
  rcases h with h | h | h
  · exact Or.inl h
  · exact Or.inr (Or.inl (List.prefix_nil.mp (h ▸ start)))
  · exact Or.inr (Or.inr fun s hs => h s ((Text.dropLast_pieces_prefix _ start).subset hs))

end Query
end Untrack
