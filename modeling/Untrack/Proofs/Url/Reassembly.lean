/-
  Untrack.Proofs.Url.Reassembly — URLs taken apart and put together again. The parts that come of a URL with a scheme
  and a host are canonical (`canonical_of_wellFormed`): each is free of the delimiters that would end it and of the
  characters that do not count, the scheme is in lower case, and the path is rooted. Canonical parts come back from
  the URL that they are put together to (`split_render`), also with another query among them
  (`Canonical.withQuery`, `split_withQuery`).
-/

import Untrack.Proofs.Url.Reading

namespace Untrack.Url

/-- Parts as they come of taking a URL with a scheme and a host apart. -/
structure Parts.Canonical (p : Parts) : Prop where
  scheme : isScheme p.scheme = true
  lower : p.scheme.map Char.toLower = p.scheme
  host : p.authority ≠ []
  authority : ∀ c ∈ p.authority, endsAuthority c = false
  brackets : checkAuthority p.authority = .ok ()
  shown : checkHidden p.authority = .ok ()
  rooted : p.path = [] ∨ p.path.head? = some '/'
  path : '?' ∉ p.path ∧ '#' ∉ p.path
  query : '#' ∉ p.query
  kept : ∀ c ∈ p.authority ++ p.path ++ p.query ++ p.fragment, isRemoved c = false

/-- Any text without the mark of a fragment and without characters that do not count can be the query. -/
theorem Parts.Canonical.withQuery {p : Parts} (h : p.Canonical) {q : Text} (hq : '#' ∉ q)
    (hr : ∀ c ∈ q, isRemoved c = false) : ({ p with query := q } : Parts).Canonical where
  scheme := h.scheme
  lower := h.lower
  host := h.host
  authority := h.authority
  brackets := h.brackets
  shown := h.shown
  rooted := h.rooted
  path := h.path
  query := hq
  kept := by
    intro c hc
    simp only [List.mem_append] at hc
    rcases hc with ((hc | hc) | hc) | hc
    · exact h.kept c (by simp [hc])
    · exact h.kept c (by simp [hc])
    · exact hr c hc
    · exact h.kept c (by simp [hc])

/-! ## Putting together and taking apart -/

/-- A marked part is cut off again. -/
theorem before_marked {c : Char} {a : Text} (h : c ∉ a) (t : Text) : (a ++ marked c t).before c = a := by
  cases t with
  | nil => simpa [marked] using Text.before_of_not_mem h
  | cons d r => exact Text.before_append_cons h (d :: r)

theorem after?_marked {c : Char} {a : Text} (h : c ∉ a) (t : Text) : ((a ++ marked c t).after? c).getD [] = t := by
  cases t with
  | nil => simp [marked, Text.after?_of_not_mem h]
  | cons d r => exact congrArg (·.getD []) (Text.after?_append_cons h (d :: r))

theorem mem_marked {c d : Char} {t : Text} (h : d ∈ marked c t) : d = c ∨ d ∈ t := by
  unfold marked at h
  split at h
  · cases h
  · exact List.mem_cons.mp h

/-- What follows the authority in a URL. -/
def Parts.tail (p : Parts) : Text := p.path ++ marked '?' p.query ++ marked '#' p.fragment

theorem Parts.Canonical.render_eq {p : Parts} (h : p.Canonical) :
    p.render = p.scheme ++ ':' :: '/' :: '/' :: (p.authority ++ p.tail) := by
  obtain ⟨c, r, hs, -, -⟩ := isScheme_cons h.scheme
  have path : Url.rooted p.path = p.path := by
    unfold Url.rooted
    rcases h.rooted with h | h <;> simp [h]
  have host : p.authority.isEmpty = false := by simpa using h.host
  have scheme : p.scheme.isEmpty = false := by rw [hs]; rfl
  simp [Parts.render, Parts.hierarchy, Parts.tail, host, scheme, path]

theorem Parts.Canonical.cleaned_render {p : Parts} (h : p.Canonical) : cleaned p.render = p.render := by
  obtain ⟨c, r, hs, hc, hall⟩ := isScheme_cons h.scheme
  have start : p.render.dropWhile isLeading = p.render := by
    rw [h.render_eq, hs, List.cons_append, List.dropWhile_cons_of_neg (by simp [isLeading_of_isAlpha hc])]
  unfold cleaned
  rw [start, List.filter_eq_self]
  intro d hd
  rw [h.render_eq] at hd
  simp only [Parts.tail, List.mem_append, List.mem_cons] at hd
  have part : ∀ {e}, e ∈ p.authority ++ p.path ++ p.query ++ p.fragment → (!isRemoved e) = true := fun he => by
    rw [h.kept _ he]
    rfl
  rcases hd with hd | rfl | rfl | rfl | hd | (hd | hd) | hd
  · rw [isRemoved_of_isSchemeChar (hall d hd)]
    rfl
  · decide
  · decide
  · decide
  · exact part (by simp [hd])
  · exact part (by simp [hd])
  · rcases mem_marked hd with rfl | hd
    · decide
    · exact part (by simp [hd])
  · rcases mem_marked hd with rfl | hd
    · decide
    · exact part (by simp [hd])

/-- What follows the authority is nothing or starts with a delimiter, whichever of its parts come first. -/
theorem Parts.Canonical.endsAuthority_tail {p : Parts} (h : p.Canonical) {c : Char} (hc : p.tail.head? = some c) :
    endsAuthority c = true := by
  unfold Parts.tail at hc
  rcases hp : p.path with _ | ⟨d, r⟩
  · rw [hp] at hc
    rcases hq : p.query with _ | ⟨d, q⟩
    · rw [hq] at hc
      rcases hf : p.fragment with _ | ⟨d, f⟩ <;> rw [hf] at hc <;> cases hc
      decide
    · rw [hq] at hc
      cases hc
      decide
  · have : d = '/' := by simpa [hp] using h.rooted
    rw [hp, this] at hc
    cases hc
    decide

theorem Parts.Canonical.reads_render {p : Parts} (h : p.Canonical) : Reads p.render p.scheme p.authority p.tail where
  text := h.cleaned_render.trans h.render_eq
  scheme := h.scheme
  host := h.host
  inside := h.authority
  stop _ := h.endsAuthority_tail
  brackets := h.brackets
  shown := h.shown

theorem Parts.Canonical.ofRest_tail {p : Parts} (h : p.Canonical) : .ofRest p.scheme p.authority p.tail = p := by
  have path := h.path
  have body : '#' ∉ p.path ++ marked '?' p.query := by
    rw [List.mem_append, not_or]
    refine ⟨path.2, fun hm => ?_⟩
    rcases mem_marked hm with hm | hm
    · cases hm
    · exact h.query hm
  unfold Parts.ofRest Parts.tail
  rw [h.lower, before_marked body, after?_marked body, before_marked path.1, after?_marked path.1]

theorem Parts.Canonical.wellFormed_render {p : Parts} (h : p.Canonical) : wellFormed p.render = .ok p :=
  wellFormed_iff.mpr ⟨_, _, _, h.reads_render, h.ofRest_tail.symm⟩

/-- Canonical parts come back from the URL they are put together to. -/
theorem Parts.Canonical.split_render {p : Parts} (h : p.Canonical) : split p.render = .ok p :=
  (wellFormed_ok.mp h.wellFormed_render).1

/-! ## Parts of a well-formed URL -/

variable {url scheme authority rest : Text} {p : Parts}

/-- What follows an authority is a path that is empty or starts with a slash, or no path at all. -/
theorem rooted_of_stop (stop : ∀ c, rest.head? = some c → endsAuthority c = true) :
    let path := (rest.before '#').before '?'
    path = [] ∨ path.head? = some '/' := by
  cases rest with
  | nil => exact Or.inl rfl
  | cons c t =>
    have stop := stop c rfl
    simp only [endsAuthority, Bool.or_eq_true, beq_iff_eq] at stop
    rcases stop with (rfl | rfl) | rfl
    · exact Or.inr (by simp [Text.before])
    · exact Or.inl (by simp [Text.before])
    · exact Or.inl (by simp [Text.before])

theorem Reads.canonical (h : Reads url scheme authority rest) : (Parts.ofRest scheme authority rest).Canonical where
  scheme := isScheme_map_toLower h.scheme
  lower := by
    unfold Parts.ofRest
    rw [List.map_map]
    exact List.map_congr_left fun c _ => Char.toLower_toLower_eq_toLower c
  host := h.host
  authority := h.inside
  brackets := h.brackets
  shown := h.shown
  rooted := rooted_of_stop h.stop
  path := ⟨Text.not_mem_before _ _, fun hm => Text.not_mem_before _ _ (Text.mem_of_mem_before hm)⟩
  query := fun hm => Text.not_mem_before _ _ (Text.mem_of_mem_after? hm)
  kept := by
    have counted : ∀ c ∈ authority ++ rest, isRemoved c = false := by
      intro c hc
      have : c ∈ cleaned url := by
        rw [h.text]
        simp only [List.mem_append, List.mem_cons] at hc ⊢
        tauto
      simpa using (List.mem_filter.mp this).2
    have inRest : ∀ {c}, c ∈ rest → isRemoved c = false := fun hc => counted _ (List.mem_append_right _ hc)
    intro c hc
    simp only [List.mem_append] at hc
    rcases hc with ((hc | hc) | hc) | hc
    · exact counted c (List.mem_append_left _ hc)
    · exact inRest (Text.mem_of_mem_before (Text.mem_of_mem_before hc))
    · exact inRest (Text.mem_of_mem_before (Text.mem_of_mem_after? hc))
    · exact inRest (Text.mem_of_mem_after? hc)

/-- The parts of a URL that has a scheme and a host are canonical. -/
theorem canonical_of_wellFormed (h : wellFormed url = .ok p) : p.Canonical := by
  obtain ⟨_, _, _, reads, rfl⟩ := wellFormed_iff.mp h
  exact reads.canonical

/-- Any text without the mark of a fragment and without characters that do not count is read again as the query, and
the other parts with it. -/
theorem split_withQuery {q : Text} (h : wellFormed url = .ok p) (mark : '#' ∉ q) (tab : '\t' ∉ q) (ret : '\r' ∉ q)
    (line : '\n' ∉ q) : split ({ p with query := q } : Parts).render = .ok { p with query := q } := by
  have counted : ∀ c ∈ q, isRemoved c = false := by
    intro c hc
    rw [← Bool.not_eq_true]
    intro removed
    simp only [isRemoved, Bool.or_eq_true, beq_iff_eq] at removed
    rcases removed with (rfl | rfl) | rfl
    · exact tab hc
    · exact ret hc
    · exact line hc
  exact ((canonical_of_wellFormed h).withQuery mark counted).split_render

end Untrack.Url
