/-
  Untrack.Proofs.Query.Spelling — a tracking parameter cannot hide behind its spelling (`removed_however_spelled`).
  Whether the filter takes a segment out of a URL depends on the lower case of its key alone, as it is meant: every
  spelling of the key is read as the key (`Percent.decodeForm_of_spells`), in every URL that has the segment, and keys
  that differ in the case of ASCII letters have the same lower case (`Text.lower_of_sameLetters`).
-/

import Untrack.Proofs.Query.Shortening
import Untrack.Proofs.Ruleset.Handmade
import Untrack.Proofs.Text.Letters
import Untrack.Proofs.Url.Spelling

namespace Untrack.Query

open Url.Percent (Spells reserved)

variable {ps : List Pattern} {url w s key value : Text} {parts left : Url.Parts}

/-! ## What the filter leaves of a URL -/

/-- The filter makes of a URL one that has other parts: the query alone differs, and its segments are segments of the
query before, verbatim and in their order. -/
structure Filters (ps : List Pattern) (url : Text) (parts left : Url.Parts) : Prop where
  before : Url.wellFormed url = .ok parts
  after : ∃ u, clean ps url = .ok u ∧ Url.wellFormed u = .ok left
  rest : left = { parts with query := left.query }
  verbatim : left.query = [] ∨ (segments left.query).Sublist (segments parts.query)

/-- The URL has the segment in its query. -/
def Carries (url w : Text) : Prop := ∃ parts, Url.wellFormed url = .ok parts ∧ w ∈ segments parts.query

def Removes (ps : List Pattern) (url w : Text) : Prop :=
  ∃ parts left, Filters ps url parts left ∧ w ∈ segments parts.query ∧ w ∉ segments left.query

def Keeps (ps : List Pattern) (url w : Text) : Prop :=
  ∃ parts left, Filters ps url parts left ∧ w ∈ segments parts.query ∧ w ∈ segments left.query

/-- A URL in which all may stay, or that has no patterns against it, is left as it is. -/
theorem Filters.unchanged (h : Url.wellFormed url = .ok parts) (hc : clean ps url = .ok url) :
    Filters ps url parts parts :=
  ⟨h, ⟨url, hc, h⟩, rfl, Or.inr (List.Sublist.refl _)⟩

theorem segments_nil : segments [] = [[]] := rfl

/-- Of the segments that are not empty, the filter leaves just those whose key no pattern matches. -/
theorem filters_of_wellFormed (h : Url.wellFormed url = .ok parts) (ps : List Pattern) :
    ∃ left, Filters ps url parts left ∧
      ∀ w ∈ segments parts.query, w ≠ [] → (w ∈ segments left.query ↔ isTracking ps w = false) := by
  have cleaned := clean_of_wellFormed h ps
  have kept_iff : ∀ w, w ≠ [] → (isKept ps w = true ↔ isTracking ps w = false) := by
    intro w hw
    simp [isKept, hw]
  rcases clean_ok cleaned with ⟨same, parts', hp, free⟩ | ⟨parts', hp, _, _, render⟩ <;> cases h.symm.trans hp
  · -- no segment goes
    rw [same] at cleaned
    refine ⟨parts, .unchanged h cleaned, fun w hw hne => iff_of_true hw ((kept_iff w hne).mp ?_)⟩
    rcases free with rfl | empty | all
    · simp [isKept, isTracking, hne]
    · rw [empty, segments_nil] at hw
      exact absurd (List.mem_singleton.mp hw) hne
    · exact all w hw
  · rw [render] at cleaned
    have canonical := canonical_ofSegments (Url.canonical_of_wellFormed h) (isKept ps)
    refine ⟨_, ⟨h, ⟨_, cleaned, canonical.wellFormed_render⟩, rfl, ?_⟩, fun w hw hne => ?_⟩
    · refine or_iff_not_imp_left.mpr fun left => ?_
      rw [segments_kept left]
      exact List.filter_sublist
    · rw [← kept_iff w hne]
      by_cases none : (segments parts.query).filter (isKept ps) = []
      · have gone := List.filter_eq_nil_iff.mp none w hw
        have empty : ofSegments [] = [] := rfl
        simp [none, empty, segments_nil, hne, gone]
      · rw [segments_ofSegments List.filter_sublist.subset none]
        simp [hw]

/-- A segment is removed exactly if a pattern matches its key, and kept if none does. -/
theorem removes_iff (h : Carries url w) (hw : w ≠ []) (ps : List Pattern) :
    (Removes ps url w ↔ isTracking ps w = true) ∧ (Keeps ps url w ↔ isTracking ps w = false) := by
  obtain ⟨parts, hp, hm⟩ := h
  obtain ⟨left, filters, told⟩ := filters_of_wellFormed hp ps
  have told := told w hm hw
  -- the URL determines its parts, and the filter what is left
  have only : ∀ parts' left', Filters ps url parts' left' → left' = left := by
    intro parts' left' filters'
    obtain ⟨u, hu, hl⟩ := filters.after
    obtain ⟨u', hu', hl'⟩ := filters'.after
    cases hu.symm.trans hu'
    exact Except.ok.inj (hl'.symm.trans hl)
  constructor
  · constructor
    · rintro ⟨parts', left', filters', _, gone⟩
      rw [only _ _ filters', told] at gone
      simpa using gone
    · intro tracking
      exact ⟨parts, left, filters, hm, fun stays => by simp [told.mp stays] at tracking⟩
  · constructor
    · rintro ⟨parts', left', filters', _, stays⟩
      rw [only _ _ filters'] at stays
      exact told.mp stays
    · intro free
      exact ⟨parts, left, filters, hm, told.mpr free⟩

/-! ## Spellings of a key -/

theorem equals_not_mem_of_spells (h : Spells s key) : '=' ∉ s := by
  intro hm
  rcases h.mem hm with e | e | free
  · cases e
  · cases e
  · exact free (by decide)

/-- The key of a segment is the lower case of what its spelling is read as. -/
theorem key_of_spells (h : Spells s key) (value : Text) : Query.key (s ++ '=' :: value) = Text.lower key := by
  rw [Query.key, Text.before_append_cons (equals_not_mem_of_spells h), Url.Percent.decodeForm_of_spells h]

theorem isTracking_of_spells (h : Spells s key) (value : Text) (ps : List Pattern) :
    isTracking ps (s ++ '=' :: value) = true ↔ ∃ p ∈ ps, p.matchesIn (Text.lower key) = true := by
  rw [isTracking, key_of_spells h, List.any_eq_true]

/-- A key in any spelling, with a value, can be the query of any URL, fragment and all. -/
theorem carries_of_spells (h : Spells s key) (hv : ∀ c ∈ value, c = '%' ∨ c = '+' ∨ c = '=' ∨ c ∉ reserved)
    (hb : Url.wellFormed url = .ok parts) :
    Carries { parts with query := s ++ '=' :: value }.render (s ++ '=' :: value) := by
  have free : ∀ c ∈ s ++ '=' :: value, c = '%' ∨ c = '+' ∨ c = '=' ∨ c ∉ reserved := by
    intro c hc
    rcases List.mem_append.mp hc with hc | hc
    · rcases h.mem hc with e | e | e
      · exact Or.inl e
      · exact Or.inr (Or.inl e)
      · exact Or.inr (Or.inr (Or.inr e))
    · rcases List.mem_cons.mp hc with e | hc
      · exact Or.inr (Or.inr (Or.inl e))
      · exact hv c hc
  have apart : ∀ c ∈ s ++ '=' :: value, (c == '&') = false ∧ c ≠ '#' ∧ Url.isRemoved c = false := by
    intro c hc
    rcases free c hc with rfl | rfl | rfl | e
    · decide
    · decide
    · decide
    · simp only [reserved, List.mem_cons, List.not_mem_nil, or_false, not_or] at e
      simp [Url.isRemoved, e]
  have canonical := (Url.canonical_of_wellFormed hb).withQuery (fun hm => (apart _ hm).2.1 rfl)
    fun c hc => (apart c hc).2.2
  refine ⟨_, canonical.wellFormed_render, ?_⟩
  rw [segments, Text.pieces_of_none fun c hc => (apart c hc).1]
  exact List.mem_singleton.mpr rfl

/-- However the key of a segment is spelled, and whatever URL has the segment: the filter takes it out exactly if a
pattern matches the key in lower case, and keeps it as it is if none does. So segments whose keys differ in their
spelling, or in the case of ASCII letters, are removed or kept alike. -/
theorem removed_however_spelled (spelt : Spells s key) (carried : Carries url (s ++ '=' :: value)) (ps : List Pattern) :
    (Removes ps url (s ++ '=' :: value) ↔ ∃ p ∈ ps, p.matchesIn (Text.lower key) = true) ∧
      (Keeps ps url (s ++ '=' :: value) ↔ ¬ ∃ p ∈ ps, p.matchesIn (Text.lower key) = true) ∧
      ∀ url' s' key' value', Spells s' key' → Text.SameLetters key' key → Carries url' (s' ++ '=' :: value') →
        (Removes ps url' (s' ++ '=' :: value') ↔ Removes ps url (s ++ '=' :: value)) ∧
          (Keeps ps url' (s' ++ '=' :: value') ↔ Keeps ps url (s ++ '=' :: value)) := by
  have removed : ∀ {url s key value : Text}, Spells s key → Carries url (s ++ '=' :: value) →
      (Removes ps url (s ++ '=' :: value) ↔ ∃ p ∈ ps, p.matchesIn (Text.lower key) = true) ∧
        (Keeps ps url (s ++ '=' :: value) ↔ ¬ ∃ p ∈ ps, p.matchesIn (Text.lower key) = true) := by
    intro url s key value spelt carried
    obtain ⟨removes, keeps⟩ := removes_iff carried (by simp) ps
    rw [removes, keeps, ← isTracking_of_spells spelt value ps, Bool.not_eq_true]
    exact ⟨Iff.rfl, Iff.rfl⟩
  obtain ⟨removes, keeps⟩ := removed spelt carried
  refine ⟨removes, keeps, ?_⟩
  intro url' s' key' value' spelt' same carried'
  obtain ⟨removes', keeps'⟩ := removed spelt' carried'
  rw [removes, keeps, removes', keeps', Text.lower_of_sameLetters same]
  exact ⟨Iff.rfl, Iff.rfl⟩

/-- One letter of ASCII in percent encoding, and one beyond it right after the same letter as it is. -/
theorem utm_spelled : Spells "u%74m_é%c3%A9+x".toList "utm_éé x".toList := by
  have t : Url.Percent.Escapes "%74".toList (String.utf8EncodeChar 't') :=
    .cons (x := 7) (y := 4) (by decide) (by decide) .nil
  have é : Url.Percent.Escapes "%c3%A9".toList (String.utf8EncodeChar 'é') :=
    .cons (x := 12) (y := 3) (by decide) (by decide) (.cons (x := 10) (y := 9) (by decide) (by decide) .nil)
  have last : Spells "%c3%A9+x".toList "é x".toList := .escaped é (.plus (.asItIs (by decide) .nil))
  have middle : Spells "m_é%c3%A9+x".toList "m_éé x".toList :=
    .asItIs (by decide) (.asItIs (by decide) (.asItIs (by decide) last))
  exact .asItIs (by decide) (.escaped t middle)

/-- The same letters, the first three as capitals. -/
theorem capitals_spelled : Spells "UTM_éé%20x".toList "UTM_éé x".toList := by
  have space : Url.Percent.Escapes "%20".toList (String.utf8EncodeChar ' ') :=
    .cons (x := 2) (y := 0) (by decide) (by decide) .nil
  have last : Spells "éé%20x".toList "éé x".toList :=
    .asItIs (by decide) (.asItIs (by decide) (.escaped space (.asItIs (by decide) .nil)))
  exact .asItIs (by decide) (.asItIs (by decide) (.asItIs (by decide) (.asItIs (by decide) last)))

/-- A pattern takes the parameter out of a link, and out of another its capitals; a pattern that looks for capitals
among keys finds none. -/
theorem utm_removed :
    let segment := "u%74m_é%c3%A9+x".toList ++ '=' :: "a=b".toList
    let capitals := "UTM_éé%20x".toList ++ '=' :: []
    let link := "https://shop.example/?id=7&".toList ++ segment ++ "#top".toList
    let home : Url.Parts := ⟨"http".toList, "other.example".toList, [], [], []⟩
    let other := { home with query := capitals }.render
    let patterns : List Pattern := [.ofSource "^ref$", .ofSource "^utm_é+ x$"]
    Carries link segment ∧ clean patterns link = .ok "https://shop.example/?id=7#top".toList ∧
      Removes patterns link segment ∧ Removes patterns other capitals ∧
      Keeps [.ofSource "(?-i:^UTM)"] link segment := by
  intro segment capitals link home other patterns
  have carried : Carries link segment :=
    ⟨⟨"https".toList, "shop.example".toList, "/".toList, "id=7&".toList ++ segment, "top".toList⟩,
      by decide +kernel, by decide +kernel⟩
  have read : Url.wellFormed "http://other.example".toList = .ok home := by decide +kernel
  have carried' : Carries other capitals := carries_of_spells capitals_spelled (List.forall_mem_nil _) read
  obtain ⟨removes, _, alike⟩ := removed_however_spelled utm_spelled carried patterns
  obtain ⟨_, keeps, _⟩ := removed_however_spelled utm_spelled carried [.ofSource "(?-i:^UTM)"]
  have found : ∃ p ∈ patterns, p.matchesIn (Text.lower "utm_éé x".toList) = true := by decide +kernel
  have none : ¬ ∃ p ∈ [Pattern.ofSource "(?-i:^UTM)"], p.matchesIn (Text.lower "utm_éé x".toList) = true := by
    decide +kernel
  have same : Text.SameLetters "UTM_éé x".toList "utm_éé x".toList := by decide +kernel
  have both := alike other "UTM_éé%20x".toList "UTM_éé x".toList [] capitals_spelled same carried'
  exact ⟨carried, by decide +kernel, removes.mpr found, both.1.mpr (removes.mpr found), keeps.mpr none⟩

end Untrack.Query
