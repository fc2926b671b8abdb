/-
  Untrack.Proofs.Message.Unchanged — which links count as unchanged. A link that concerned a provider does exactly if it
  is spared (`unchanged_iff_spares`), so if the providers find nothing to do (`Provider.Idle`) and nothing is trimmed.
  What became of a link is told by comparing what is left with the link as it came, not by what the providers did. So
  where they do nothing at all it comes down to how the link ends: one that ends in a question mark or a slash is told
  to be cleaned, and is posted back without it (`a_trimmed_link_counts_as_cleaned`), while a link that concerned nobody
  is trimmed in silence.
-/

import Untrack.Proofs.Message.Changed

namespace Untrack

/-- A provider lets the URL pass, none of its redirections finds a target in it, and filtering its query and deleting
what the raw rules match leave it as it was. -/
structure Provider.Idle (p : Provider) (url : Text) : Prop where
  passes : p.complete = false
  leadsNowhere : ∀ r ∈ p.redirections, Sanitizer.target? r url = .ok none
  query : Sanitizer.cleanQuery p url = .ok url
  raw : Sanitizer.deleteRaw p url = url

/-- What is left as it was by a provider has nothing in it for that provider. -/
theorem Provider.idle_iff_spares {p : Provider} {url : Text} : p.Idle url ↔ p.Spares url := by
  constructor
  · rintro ⟨passes, leadsNowhere, query, raw⟩
    have spared : Query.Spared p.removalPatterns url := by
      rcases Query.clean_cases (mapError_ok.mp query) with ⟨_, spared⟩ | shorter
      · exact spared
      · exact absurd shorter (Nat.lt_irrefl _)
    exact ⟨passes, leadsNowhere, spared, Sanitizer.deleteAll_eq_self.mp raw⟩
  · rintro ⟨passes, leadsNowhere, spared, raw⟩
    exact ⟨passes, leadsNowhere, mapError_ok.mpr (Query.clean_of_spared spared), Sanitizer.deleteAll_eq_self.mpr raw⟩

theorem Provider.Plain.idle {p : Provider} {url : Text} (h : p.Plain) (passes : p.complete = false)
    (query : Sanitizer.cleanQuery p url = .ok url) : p.Idle url where
  passes := passes
  leadsNowhere := by
    rw [h.redirections]
    exact List.forall_mem_nil _
  query := query
  raw := by
    rw [Sanitizer.deleteRaw, h.rawRules]
    rfl

namespace Sanitizer

variable {follow : Text → Except CleanFault Visit} {s : Sanitizer} {rules : Ruleset} {url : Text} {r : Result}

/-- If the providers that are noted find nothing to do, the URL reaches each of them as it came, so they are all that
it concerns. -/
theorem spares_of_noted {ps : List Provider} {v : Visit} (h : visit follow ps url = .ok v)
    (idle : ∀ p ∈ ps, p.name ∈ v.matched → p.Idle url) : ∀ p ∈ ps, p.concerns url = true → p.Spares url := by
  induction ps generalizing v with
  | nil => exact List.forall_mem_nil _
  | cons p ps ih =>
    rcases visit_cons_ok.mp h with ⟨hc, h⟩ | ⟨_, x, hx, rest⟩
    · have later := ih h fun q hq => idle q (List.mem_cons_of_mem _ hq)
      exact List.forall_mem_cons.mpr ⟨fun hc' => absurd hc' (by simp [hc]), later⟩
    have noted : p.name ∈ v.matched := by
      have first := (apply_matched hx).subset (List.mem_singleton_self p.name)
      rcases rest with ⟨_, rfl⟩ | ⟨_, w, _, rfl⟩
      · exact first
      · exact List.mem_append_left _ first
    have here : p.Spares url := Provider.idle_iff_spares.mp (idle p List.mem_cons_self noted)
    rw [apply_of_spares here] at hx
    cases hx
    rcases rest with ⟨hb, _⟩ | ⟨_, w, hw, rfl⟩
    · cases hb
    · have later := ih hw fun q hq hm => idle q (List.mem_cons_of_mem _ hq) (List.mem_append_right _ hm)
      exact List.forall_mem_cons.mpr ⟨fun _ => here, later⟩

theorem unchanged_iff_spares (h : s.sanitize url rules = .ok r) :
    r.outcome = .unchanged ↔ r.matched = [] ∨ rules.Spares url := by
  obtain ⟨v, hv, rfl⟩ := sanitize_ok h
  refine outcomeOf_eq_unchanged.trans ⟨?_, ?_⟩
  · rintro ⟨hb, nobody | same⟩
    · exact Or.inl nobody
    · exact Or.inr ((resolve_sparing rules _ _ url v hv hb).2 same)
  · obtain ⟨n, _, hvisit⟩ := resolve_ok.mp hv
    rintro (nobody | spared)
    · rw [visit_of_matched_nil hvisit nobody]
      exact ⟨rfl, Or.inl rfl⟩
    · rw [visit_of_spares spared.providers] at hvisit
      cases hvisit
      exact ⟨rfl, Or.inr spared.trimmed⟩

/-- Providers that find nothing to do leave nothing but the trim. -/
theorem sanitize_of_idle (h : s.sanitize url rules = .ok r)
    (idle : ∀ p ∈ rules.providers, p.name ∈ r.matched → p.Idle url) :
    ∃ names, names = (rules.providers.filter (·.concerns url)).map (·.name) ∧
      r = ⟨outcomeOf url ⟨trim url, names, false⟩, url, trim url, names⟩ := by
  obtain ⟨v, hv, rfl⟩ := sanitize_ok h
  obtain ⟨n, _, hvisit⟩ := resolve_ok.mp hv
  have spared := spares_of_noted hvisit idle
  rw [visit_of_spares spared] at hvisit
  cases hvisit
  exact ⟨_, rfl, rfl⟩

/-- What was only trimmed counts as cleaned if somebody was noted and there was something to trim. -/
theorem outcomeOf_trim_eq_cleaned {names : List Text} :
    outcomeOf url ⟨trim url, names, false⟩ = .cleaned ↔
      names ≠ [] ∧ (url.getLast? = some '?' ∨ url.getLast? = some '/') := by
  rw [outcomeOf_eq_cleaned, ne_eq (trim url), trim_eq_self_iff, not_and_or, not_not, not_not]
  simp

end Sanitizer

namespace Message

variable {s : Sanitizer} {rules : Ruleset}

theorem changed?_of_mem {found : List Text} {results : List LinkResult} (h : cleanLinks s rules found = .ok results)
    {x : LinkResult} (hx : x ∈ results) {r : Sanitizer.Result} (hr : s.sanitize x.link rules = .ok r) :
    x.changed? = if r.outcome = .cleaned then some r.url else none := by
  obtain ⟨_, _, rfl, same, _⟩ := exists_left_of_forall₂ (cleanLinks_ok h) x hx
  rw [hr] at same
  simp [LinkResult.changed?, same, Sanitizer.Result.changed]

/-- A URL counts as unchanged exactly if it concerned nobody or is spared. Where the providers that were noted find
nothing to do in it, they are those that it concerns, the URL is only trimmed, and it is not blocked; but it counts as
cleaned if there is such a provider and the URL ends in a question mark or a slash, and then each message that has it
as a link is answered with what is left of it. -/
theorem unchanged_unless_noted_and_trimmed {url : Text} {r : Sanitizer.Result} (h : s.sanitize url rules = .ok r) :
    (r.outcome = .unchanged ↔ r.matched = [] ∨ rules.Spares url) ∧
    ((∀ p ∈ rules.providers, p.name ∈ r.matched → p.Idle url) →
      r.matched = (rules.providers.filter (·.concerns url)).map (·.name) ∧ r.url = Sanitizer.trim url ∧
      r.outcome ≠ .blocked ∧
      (r.outcome = .cleaned ↔ r.matched ≠ [] ∧ (url.getLast? = some '?' ∨ url.getLast? = some '/')) ∧
      ∀ found results, cleanLinks s rules found = .ok results → ∀ x ∈ results, x.link = url →
        x.changed? = if r.outcome = .cleaned then some (Sanitizer.trim url) else none) := by
  refine ⟨Sanitizer.unchanged_iff_spares h, fun idle => ?_⟩
  obtain ⟨names, noted, rfl⟩ := Sanitizer.sanitize_of_idle h idle
  have unblocked : Sanitizer.outcomeOf url ⟨Sanitizer.trim url, names, false⟩ ≠ .blocked := fun blocked =>
    Bool.false_ne_true (Sanitizer.outcomeOf_eq_blocked.mp blocked)
  refine ⟨noted, rfl, unblocked, Sanitizer.outcomeOf_trim_eq_cleaned, fun found results batch x hx link => ?_⟩
  subst link
  exact changed?_of_mem batch hx h

open Sanitizer (Outcome standard campaigns)

def docs : Text := "https://shop.example/docs/".toList

theorem docs_idle : ∀ p ∈ campaigns.providers, p.Idle docs := by
  have passes : ∀ p ∈ campaigns.providers, p.complete = false := by decide
  have query : ∀ p ∈ campaigns.providers, Sanitizer.cleanQuery p docs = .ok docs := by decide +kernel
  exact fun p hp => (Sanitizer.campaigns_plain p hp).idle (passes p hp) (query p hp)

theorem docs_cleaned : standard.sanitize docs campaigns =
    .ok ⟨.cleaned, docs, "https://shop.example/docs".toList, ["campaign".toList]⟩ := by
  decide +kernel

/-- It takes no more than a slash at its end for a link that concerns a provider not to count as unchanged, whatever
the providers left in it. -/
theorem a_trimmed_link_counts_as_cleaned : ¬ ∀ (s : Sanitizer) (rules : Ruleset) (url : Text) (r : Sanitizer.Result),
    s.sanitize url rules = .ok r →
    (∀ p ∈ rules.providers, p.name ∈ r.matched → p.complete = false ∧
      (∀ q ∈ p.redirections, q.pattern.find? url = none) ∧ Sanitizer.cleanQuery p url = .ok url ∧
      Sanitizer.deleteRaw p url = url) →
    r.outcome = .unchanged ∧
      ∀ found results, cleanLinks s rules found = .ok results → ∀ x ∈ results, x.link = url → x.changed? = none := by
  intro h
  have unchanged := h standard campaigns docs _ docs_cleaned fun p hp _ => by
    obtain ⟨passes, _, query, raw⟩ := docs_idle p hp
    refine ⟨passes, ?_, query, raw⟩
    rw [(Sanitizer.campaigns_plain p hp).redirections]
    exact List.forall_mem_nil _
  exact absurd unchanged.1 Outcome.noConfusion

/-- The campaign finds nothing to do in a link to the shop's documents, and the link is posted back without its slash. -/
theorem docs_posted_back :
    let left := "https://shop.example/docs".toList
    let r : Sanitizer.Result := ⟨.cleaned, docs, left, ["campaign".toList]⟩
    standard.sanitize docs campaigns = .ok r ∧ (∀ p ∈ campaigns.providers, p.name ∈ r.matched → p.Idle docs) ∧
      ¬ campaigns.Spares docs ∧ r.matched = (campaigns.providers.filter (·.concerns docs)).map (·.name) ∧
      left = Sanitizer.trim docs ∧ (docs.getLast? = some '?' ∨ docs.getLast? = some '/') ∧
      ∃ results, cleanLinks standard campaigns [docs] = .ok results ∧ changed results = [left] := by
  intro left r
  have idle : ∀ p ∈ campaigns.providers, p.name ∈ r.matched → p.Idle docs := fun p hp _ => docs_idle p hp
  obtain ⟨unchanged, only⟩ := unchanged_unless_noted_and_trimmed docs_cleaned
  obtain ⟨noted, trimmed, _, cleaned, listed⟩ := only idle
  have spares : ¬ campaigns.Spares docs := fun h => absurd (unchanged.mpr (Or.inr h)) Outcome.noConfusion
  have batch : cleanLinks standard campaigns [docs] = .ok [⟨docs, .ok r⟩] := by
    rw [cleanLinks, List.mapM_cons, cleanLink, docs_cleaned]
    rfl
  have posted : (⟨docs, .ok r⟩ : LinkResult).changed? = some left := by
    rw [show left = Sanitizer.trim docs from trimmed]
    exact listed [docs] _ batch _ (List.mem_singleton_self _) rfl
  refine ⟨docs_cleaned, idle, spares, noted, trimmed, (cleaned.mp rfl).2, _, batch, ?_⟩
  rw [changed, List.filterMap_cons, posted]
  rfl

end Message
end Untrack
