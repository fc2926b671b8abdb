/-
  Untrack.Proofs.Query.Filter — dropping segments of a URL's query. Doing it twice is doing it once, with what both
  let stay (`keepOnly_keepOnly`), although the URL is put together and taken apart in between; so taking out the
  parameters of some patterns and then those of others takes out the parameters of all of them
  (`clean_without`).
-/

import Untrack.Proofs.Text.Pieces
import Untrack.Proofs.Url.Reassembly

namespace Untrack.Query

/-- A URL with only those segments of its query that may stay; as it came if it has no query or all of them do. -/
def keepOnly (keep : Text → Bool) (url : Text) : Text :=
  match Url.split url with
  | .error _ => url
  | .ok parts =>
    let kept := (segments parts.query).filter keep
    if parts.query = [] ∨ kept = segments parts.query then url else { parts with query := ofSegments kept }.render

/-- A URL without the parameters that match one of the patterns; as it came if there are no patterns. -/
def without (patterns : List Pattern) (url : Text) : Text :=
  if patterns = [] then url else keepOnly (isKept patterns) url

variable {url : Text} {parts : Url.Parts} {f g : Text → Bool}

/-! ## Segments -/

theorem ampersand_not_mem {query w : Text} (h : w ∈ segments query) : ∀ c ∈ w, (c == '&') = false :=
  fun _ hc => (Text.of_mem_pieces h hc).1

/-- Characters of a query made of segments of another are ampersands or characters of that. -/
theorem mem_ofSegments {query : Text} {kept : List Text} (hk : kept ⊆ segments query) {c : Char}
    (h : c ∈ ofSegments kept) : c = '&' ∨ c ∈ query := by
  rcases Text.mem_intercalate h with h | ⟨w, hw, hc⟩
  · exact Or.inl h
  · exact Or.inr (Text.of_mem_pieces (hk hw) hc).2

/-- Segments that stay are the segments of the query they make up. -/
theorem segments_ofSegments {query : Text} {kept : List Text} (hk : kept ⊆ segments query) (hne : kept ≠ []) :
    segments (ofSegments kept) = kept :=
  Text.pieces_intercalate (by decide) hne fun _ hw => ampersand_not_mem (hk hw)

theorem ofSegments_ne_nil {kept : List Text} (hne : kept ≠ []) (h : [] ∉ kept) : ofSegments kept ≠ [] := by
  obtain ⟨w, ws, rfl⟩ := List.exists_cons_of_ne_nil hne
  have hw : w ≠ [] := fun e => h (e ▸ List.mem_cons_self)
  cases ws with
  | nil => simpa [ofSegments] using hw
  | cons v vs => simp [ofSegments, List.intercalate_cons_cons]

/-- What stays of a query, if anything does, has the segments that stayed. -/
theorem segments_kept {query : Text} {keep : Text → Bool} (h : ofSegments ((segments query).filter keep) ≠ []) :
    segments (ofSegments ((segments query).filter keep)) = (segments query).filter keep :=
  segments_ofSegments List.filter_sublist.subset fun none => h (by rw [none]; rfl)

/-! ## Dropping segments -/

theorem keepOnly_of_split (h : Url.split url = .ok parts) (keep : Text → Bool) :
    keepOnly keep url =
      if parts.query = [] ∨ (segments parts.query).filter keep = segments parts.query then url
      else { parts with query := ofSegments ((segments parts.query).filter keep) }.render := by
  unfold keepOnly
  rw [h]

theorem canonical_ofSegments (hc : parts.Canonical) (keep : Text → Bool) :
    ({ parts with query := ofSegments ((segments parts.query).filter keep) } : Url.Parts).Canonical := by
  have sub : (segments parts.query).filter keep ⊆ segments parts.query := List.filter_sublist.subset
  refine hc.withQuery (fun hm => ?_) fun c hm => ?_
  · rcases mem_ofSegments sub hm with h | h
    · cases h
    · exact hc.query h
  · rcases mem_ofSegments sub hm with rfl | h
    · decide
    · exact hc.kept c (by simp [h])

/-- What is left of a well-formed URL is well-formed. -/
theorem wellFormed_keepOnly (h : Url.wellFormed url = .ok parts) (keep : Text → Bool) :
    ∃ left, Url.wellFormed (keepOnly keep url) = .ok left := by
  rw [keepOnly_of_split (Url.wellFormed_ok.mp h).1]
  split
  · exact ⟨parts, h⟩
  · exact ⟨_, (canonical_ofSegments (Url.canonical_of_wellFormed h) keep).wellFormed_render⟩

/-- Segments that neither lets stay go in one pass as in two. -/
theorem keepOnly_keepOnly (h : Url.wellFormed url = .ok parts) (hf : f [] = false) :
    keepOnly g (keepOnly f url) = keepOnly (fun s => f s && g s) url := by
  have hs := (Url.wellFormed_ok.mp h).1
  have canonical := canonical_ofSegments (Url.canonical_of_wellFormed h) f
  rw [keepOnly_of_split hs f, keepOnly_of_split hs fun s => f s && g s]
  by_cases hq : parts.query = []
  · rw [if_pos (Or.inl hq), if_pos (Or.inl hq), keepOnly_of_split hs, if_pos (Or.inl hq)]
  set all := segments parts.query with hall
  have both : all.filter (fun s => f s && g s) = (all.filter f).filter g := by
    rw [List.filter_filter]
    exact List.filter_congr fun s _ => Bool.and_comm _ _
  rw [both]
  by_cases hk : all.filter f = all
  · rw [if_pos (Or.inr hk), hk, keepOnly_of_split hs]
  have some_goes : ¬ (parts.query = [] ∨ all.filter f = all) := fun e => e.elim hq hk
  have both_go : ¬ (parts.query = [] ∨ (all.filter f).filter g = all) := fun e => e.elim hq fun e => by
    have back : ((all.filter f).filter g).Sublist (all.filter f) := List.filter_sublist
    rw [e] at back
    exact hk (List.filter_sublist.eq_of_length_le back.length_le)
  rw [if_neg some_goes, if_neg both_go, keepOnly_of_split canonical.split_render]
  dsimp only
  -- what the first pass leaves is either nothing, or a query of just the segments it let stay
  by_cases hn : all.filter f = []
  · rw [if_pos (Or.inl (by rw [hn]; rfl)), hn]
    rfl
  · have sub : all.filter f ⊆ segments parts.query := List.filter_sublist.subset
    have nonempty : [] ∉ all.filter f := fun hm => by simp [hf] at hm
    rw [segments_ofSegments sub hn]
    by_cases hg : (all.filter f).filter g = all.filter f
    · rw [if_pos (Or.inr hg), hg]
    · rw [if_neg fun e => e.elim (ofSegments_ne_nil hn nonempty) hg]

/-! ## Taking out tracking parameters -/

theorem isKept_append (ps qs : List Pattern) (s : Text) : isKept (ps ++ qs) s = (isKept ps s && isKept qs s) := by
  unfold isKept isTracking
  rw [List.any_append]
  cases s.isEmpty <;> simp

theorem clean_of_wellFormed (h : Url.wellFormed url = .ok parts) (ps : List Pattern) :
    clean ps url = .ok (without ps url) := by
  have hs := (Url.wellFormed_ok.mp h).1
  unfold clean
  refine except_bind_ok.mpr ⟨parts, h, ?_⟩
  rw [without, keepOnly_of_split hs]
  by_cases hp : ps = []
  · simp [hp, pure, Except.pure]
  by_cases hq : parts.query = []
  · simp [hq, pure, Except.pure]
  have same : ((segments parts.query).filter (isKept ps)).length = (segments parts.query).length ↔
      (segments parts.query).filter (isKept ps) = segments parts.query :=
    ⟨List.filter_sublist.eq_of_length, congrArg _⟩
  rw [if_neg (by simp [hp, hq]), if_neg hp]
  simp only [same, hq, false_or]
  split <;> rfl

/-- Taking out the parameters of some patterns and then those of others takes out the parameters of all of them. -/
theorem clean_without (h : Url.wellFormed url = .ok parts) (ps qs : List Pattern) :
    clean qs (without ps url) = .ok (without (ps ++ qs) url) := by
  by_cases hp : ps = []
  · rw [hp]
    exact clean_of_wellFormed h qs
  obtain ⟨left, hleft⟩ := wellFormed_keepOnly h (isKept ps)
  rw [without, if_neg hp, clean_of_wellFormed hleft]
  by_cases hq : qs = []
  · rw [hq, List.append_nil, without, if_pos rfl, without, if_neg hp]
  · rw [without, if_neg hq, keepOnly_keepOnly h (by simp [isKept]), without, if_neg (by simp [hp])]
    exact congrArg (fun keep => Except.ok (keepOnly keep url)) (funext fun s => (isKept_append ps qs s).symm)

end Untrack.Query
