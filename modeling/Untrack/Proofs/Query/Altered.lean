/-
  Untrack.Proofs.Query.Altered — the filter alters nothing of a URL but its query (`query_alone_altered`). Whatever query
  is put in the place of a URL's own, the URL is read again with all other parts as they were. So a URL that lost
  parameters has no other segments than those that stayed, and the filter leaves it as it is (`clean_clean`).
-/

import Untrack.Proofs.Query.Shortening
import Untrack.Proofs.Ruleset.Handmade

namespace Untrack.Query

variable {ps : List Pattern} {url u : Text}

/-- Filtering twice is filtering once, and refuses the same URLs. -/
theorem clean_clean (ps : List Pattern) (url : Text) : (clean ps url >>= clean ps) = clean ps url := by
  cases h : clean ps url with
  | error reason => rfl
  | ok u => exact clean_of_spared (spared_of_clean h)

/-- A URL that is altered has another query, of those segments that stayed, or none. -/
theorem clean_altered (h : clean ps url = .ok u) (altered : u ≠ url) :
    ∃ parts q, Url.wellFormed url = .ok parts ∧ Url.split u = .ok { parts with query := q } ∧
      (q ≠ [] → segments q = (segments parts.query).filter (isKept ps)) := by
  rcases clean_ok h with ⟨same, _⟩ | ⟨parts, hp, _, _, rfl⟩
  · exact absurd same altered
  have canonical := canonical_ofSegments (Url.canonical_of_wellFormed hp) (isKept ps)
  exact ⟨parts, _, hp, canonical.split_render, segments_kept⟩

/-- Whatever stands in the place of a URL's query, if it could stand there at all, is read again, and the other parts
are read as they were. So the filter alters nothing but the query. A second time it alters nothing, and the query that
it leaves, if any, has no segment that is empty or whose key a pattern matches. -/
theorem query_alone_altered (ps : List Pattern) (url : Text) :
    (∀ parts q, Url.wellFormed url = .ok parts → '#' ∉ q → '\t' ∉ q → '\r' ∉ q → '\n' ∉ q →
      Url.split ({ parts with query := q } : Url.Parts).render = .ok { parts with query := q }) ∧
    (clean ps url >>= clean ps) = clean ps url ∧
    ∀ u, clean ps url = .ok u → u ≠ url →
      ∃ parts q, Url.wellFormed url = .ok parts ∧ Url.split u = .ok { parts with query := q } ∧
        (q ≠ [] → ∀ s ∈ segments q, s ≠ [] ∧ ∀ p ∈ ps, p.matchesIn (key s) = false) := by
  refine ⟨fun parts q => Url.split_withQuery, clean_clean ps url, fun u h altered => ?_⟩
  obtain ⟨parts, q, before, after, stayed⟩ := clean_altered h altered
  refine ⟨parts, q, before, after, fun left s hs => ?_⟩
  rw [stayed left] at hs
  have kept := (List.mem_filter.mp hs).2
  simpa [isKept, isTracking] using kept

/-- A link with a user, an address in brackets, an empty segment and delimiters where they do not delimit: a query of
delimiters is read again, and the filter takes out the empty segment and the one whose key is a pattern's, spelled in
another way. -/
theorem crowded_link_altered :
    let url := " HTTPS://u:p@[::1]:80//a?x=1&&%75tm_id=2&b=?3#top?#x".toList
    let parts : Url.Parts :=
      ⟨"https".toList, "u:p@[::1]:80".toList, "//a".toList, "x=1&&%75tm_id=2&b=?3".toList, "top?#x".toList⟩
    let delimiters := "?/&=:@ &".toList
    let left := "https://u:p@[::1]:80//a?x=1&b=?3#top?#x".toList
    let patterns : List Pattern := [.ofSource "^utm_"]
    Url.wellFormed url = .ok parts ∧
      Url.split ({ parts with query := delimiters } : Url.Parts).render = .ok { parts with query := delimiters } ∧
      clean patterns url = .ok left ∧ left ≠ url ∧ clean patterns left = .ok left ∧
      Url.split left = .ok { parts with query := "x=1&b=?3".toList } ∧
      ∀ s ∈ segments "x=1&b=?3".toList, s ≠ [] ∧ ∀ p ∈ patterns, p.matchesIn (key s) = false := by
  intro url parts delimiters left patterns
  obtain ⟨back, again, altered⟩ := query_alone_altered patterns url
  have read : Url.wellFormed url = .ok parts := by decide +kernel
  have filtered : clean patterns url = .ok left := by decide +kernel
  have differs : left ≠ url := by decide +kernel
  obtain ⟨w, once, twice⟩ := except_bind_ok.mp (again.trans filtered)
  obtain rfl : w = left := Except.ok.inj (once.symm.trans filtered)
  obtain ⟨parts', q, before, after, free⟩ := altered left filtered differs
  cases read.symm.trans before
  have apart : Url.split left = .ok { parts with query := "x=1&b=?3".toList } := by decide +kernel
  obtain rfl : q = "x=1&b=?3".toList := congrArg Url.Parts.query (Except.ok.inj (after.symm.trans apart))
  have reread := back parts delimiters read (by decide) (by decide) (by decide) (by decide)
  exact ⟨read, reread, filtered, differs, twice, apart, free (by decide)⟩

end Untrack.Query
