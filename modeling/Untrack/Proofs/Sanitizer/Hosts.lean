/-
  Untrack.Proofs.Sanitizer.Hosts — what is left of a URL that concerned a provider can be taken apart, with a scheme and
  a host, if no provider has raw rules (`noted_keeps_host`). So nothing is left of a link exactly if it is blocked.

  Where a redirection leads is anybody's guess, as targets are decoded and a target that concerns nobody is not looked
  at. But the provider that was led there filters the query of what it found, patterns or not, and fails if there is no
  host. From the first provider noted on, each leaves a host to the next, and the trim takes none away.
-/

import Untrack.Proofs.Sanitizer.Outcome
import Untrack.Proofs.Sanitizer.Trim
import Untrack.Proofs.Query.Shortening

namespace Untrack.Sanitizer

variable {follow : Text → Except CleanFault Visit} {rules : Ruleset} {url : Text} {v : Visit}

/-- A provider that lets the URL pass leaves a host, wherever its redirections led. -/
theorem apply_hasHost {p : Provider} (noRaw : p.rawRules = []) (h : apply follow p url = .ok v)
    (hb : v.blocked = false) : Url.HasHost v.url := by
  obtain ⟨_, x, u, _, _, hu, rfl⟩ := apply_ok_unblocked h hb
  have host : Url.HasHost u := Query.hasHost_of_clean (mapError_ok.mp hu)
  rwa [deleteRaw, noRaw]

/-- There is a host in the end if there is one to begin with, or if a provider is noted on the way. -/
theorem visit_hasHost {ps : List Provider} (noRaw : ∀ p ∈ ps, p.rawRules = []) (h : visit follow ps url = .ok v)
    (hb : v.blocked = false) (start : v.matched ≠ [] ∨ Url.HasHost url) : Url.HasHost v.url := by
  induction ps generalizing url v with
  | nil =>
    rw [visit_nil_ok.mp h] at start ⊢
    have host : Url.HasHost url := start.resolve_left fun noted => noted rfl
    exact hasHost_trim host
  | cons p ps ih =>
    obtain ⟨here, later⟩ := List.forall_mem_cons.mp noRaw
    rcases visit_cons_ok_unblocked h hb with ⟨_, h⟩ | ⟨_, x, w, hx, hxb, hw, hwb, rfl⟩
    · exact ih later h hb start
    · have handedOn : Url.HasHost x.url := apply_hasHost here hx hxb
      have rest : Url.HasHost w.url := ih later hw hwb (Or.inr handedOn)
      exact rest

theorem sanitize_hasHost {s : Sanitizer} {r : Result} (noRaw : ∀ p ∈ rules.providers, p.rawRules = [])
    (h : s.sanitize url rules = .ok r) (hn : r.outcome ≠ .blocked) (noted : r.matched ≠ []) : Url.HasHost r.url := by
  obtain ⟨v, hv, rfl⟩ := sanitize_ok h
  obtain ⟨n, _, hvisit⟩ := resolve_ok.mp hv
  have unblocked : v.blocked = false := by simpa [outcomeOf_eq_blocked] using hn
  dsimp only
  rw [unblocked]
  exact visit_hasHost noRaw hvisit unblocked (Or.inl noted)

/-- Of a result that nobody was noted for, only the trim took something away. -/
theorem sanitize_unnoted {s : Sanitizer} {r : Result} (h : s.sanitize url rules = .ok r) (hm : r.matched = []) :
    r.url = trim url := by
  obtain ⟨v, hv, rfl⟩ := sanitize_ok h
  obtain ⟨n, _, hvisit⟩ := resolve_ok.mp hv
  rw [visit_of_matched_nil hvisit hm]
  rfl

/-- If no provider has raw rules, the URL of a result that is not blocked and for which a provider was noted can be
taken apart and has a scheme and a host, wherever redirections led. So cleaning a text that starts with `http://` or
`https://` gives the empty text exactly if the outcome is that it is blocked. -/
theorem noted_keeps_host (s : Sanitizer) {rules : Ruleset} (noRaw : ∀ p ∈ rules.providers, p.rawRules = [])
    (url : Text) :
    (∀ r, s.sanitize url rules = .ok r → r.outcome ≠ .blocked → r.matched ≠ [] →
      ∃ parts, Url.split r.url = .ok parts ∧ parts.scheme ≠ [] ∧ parts.authority ≠ []) ∧
    ("http://".toList <+: url ∨ "https://".toList <+: url →
      (s.clean url rules 0 = .ok [] ↔ ∃ r, s.sanitize url rules = .ok r ∧ r.outcome = .blocked)) := by
  refine ⟨fun r h hn noted => Url.hasHost_iff.mp (sanitize_hasHost noRaw h hn noted), fun link => ?_⟩
  rw [clean_eq_sanitize, except_map_ok]
  refine exists_congr fun r => and_congr_right fun h => ⟨fun empty => ?_, fun blocked => ?_⟩
  · by_contra hn
    by_cases noted : r.matched = []
    · -- more is left of the start alone than the two characters that a trim can take
      have long : 7 ≤ url.length := by
        rcases link with start | start
        · exact start.length_le
        · exact Nat.le_of_succ_le start.length_le
      have trimmed := length_trim url
      rw [← sanitize_unnoted h noted, empty, List.length_nil] at trimmed
      omega
    · obtain ⟨parts, split, scheme, _⟩ := Url.hasHost_iff.mp (sanitize_hasHost noRaw h hn noted)
      rw [empty] at split
      cases split
      exact scheme rfl
  · obtain ⟨v, _, rfl⟩ := sanitize_ok h
    have hb : v.blocked = true := outcomeOf_eq_blocked.mp blocked
    dsimp only
    rw [hb]
    rfl

/-- A link whose target is trimmed down to its host, and one whose target is a tracker's. -/
theorem trackedShop_keeps_host :
    let open_ := "http://shop.example/?to=https%3A%2F%2Fpage.example%2F%3F".toList
    let tracked := "http://shop.example/?to=https%3A%2F%2Ftrack.example".toList
    (∀ p ∈ trackedShop.providers, p.rawRules = []) ∧
      (∃ r, standard.sanitize open_ trackedShop = .ok r ∧ r.outcome ≠ .blocked ∧ r.matched ≠ [] ∧
        r.url = "https://page.example".toList ∧
        ∃ parts, Url.split r.url = .ok parts ∧ parts.scheme ≠ [] ∧ parts.authority ≠ []) ∧
      "http://".toList <+: tracked ∧ standard.clean tracked trackedShop 0 = .ok [] ∧
      ∃ r, standard.sanitize tracked trackedShop = .ok r ∧ r.outcome = .blocked := by
  intro open_ tracked
  have noRaw : ∀ p ∈ trackedShop.providers, p.rawRules = [] := by decide +kernel
  have run : standard.sanitize open_ trackedShop =
      .ok ⟨.cleaned, open_, "https://page.example".toList, ["shop".toList]⟩ := by decide +kernel
  have blocked : standard.clean tracked trackedShop 0 = .ok [] := by decide +kernel
  have link : "http://".toList <+: tracked := by decide +kernel
  have host := (noted_keeps_host standard noRaw open_).1 _ run Outcome.noConfusion (List.cons_ne_nil _ _)
  have empty := (noted_keeps_host standard noRaw tracked).2 (Or.inl link)
  exact ⟨noRaw, ⟨_, run, Outcome.noConfusion, List.cons_ne_nil _ _, rfl, host⟩, link, blocked, empty.mp blocked⟩

end Untrack.Sanitizer
