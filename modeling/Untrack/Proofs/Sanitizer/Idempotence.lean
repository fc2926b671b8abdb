/-
  Untrack.Proofs.Sanitizer.Idempotence — cleaning what cleaning left (`cleaned_again`). It comes back as it was exactly
  if it is spared, so not always: one question mark and one slash are trimmed at a time
  (`slashes_go_one_by_one`), raw rules may make new matches, and a provider may concern only what was left.

  Where providers only filter the query, little is to be feared. What was filtered stays filtered under the providers
  that were noted, up to the segment at the end, which the trim may have shortened (`sparedButLast_of_matched`).
-/

import Untrack.Proofs.Sanitizer.Filtering
import Untrack.Proofs.Sanitizer.Spared

namespace Untrack

theorem Query.SparedButLast.trim {ps : List Pattern} {url : Text} (h : SparedButLast ps url) :
    SparedButLast ps (Sanitizer.trim url) :=
  Sanitizer.trim_of_dropLast (fun _ _ hc rest => rest.dropLast hc) h

namespace Sanitizer

variable {s : Sanitizer} {rules : Ruleset} {url : Text} {r : Result}

/-- A provider that was noted has no parameters to take out of what is left, except perhaps the last. -/
theorem sparedButLast_of_matched (plain : ∀ p ∈ rules.providers, p.Plain) (unique : rules.names.Nodup)
    (h : s.sanitize url rules = .ok r) (hn : r.outcome ≠ .blocked) {p : Provider} (hp : p ∈ rules.providers)
    (noted : p.name ∈ r.matched) : p.complete = false ∧ Query.SparedButLast p.removalPatterns r.url := by
  have named : ∀ q ∈ rules.providers, q.name = p.name → q = p := fun q hq e =>
    List.inj_on_of_nodup_map unique hq hp e
  have passes : p.complete = false := by
    obtain ⟨v, hv, rfl⟩ := sanitize_ok h
    have unblocked : v.blocked = false := by simpa [outcomeOf_eq_blocked] using hn
    obtain ⟨q, hq, e, hc⟩ := (resolve_settled hv).harmless unblocked p.name noted
    exact named q hq e ▸ hc
  refine ⟨passes, ?_⟩
  cases hu : Url.wellFormed url with
  | ok parts =>
    obtain ⟨r', hr, left⟩ := sanitize_wellFormed s plain hu
    rw [h, Except.ok.injEq] at hr
    subst hr
    obtain ⟨hmatched, hurl⟩ := left hn
    rw [hmatched] at noted
    obtain ⟨q, hq, e⟩ := List.mem_map.mp noted
    have hpq : p ∈ concerned url [] rules.providers := named q ((concerned_sublist _ _ _).subset hq) e ▸ hq
    rw [hurl, withoutTracking_eq]
    have filtered := Query.spared_without hu ((concerned url [] rules.providers).flatMap (·.removalPatterns))
    exact (filtered.subset fun x hx => List.mem_flatMap.mpr ⟨p, hpq, hx⟩).butLast.trim
  | error reason =>
    rw [sanitize_refused s plain hu] at h
    split at h
    · cases h
      cases noted
    · split at h <;> cases h
      exact absurd rfl hn

/-- What cleaning left, cleaned again by the same rules, comes back as it was if it is spared, and only then, unless
nothing was left. By providers that only filter the query, as long as none of them concerns only what is left, it
comes back exactly if it has nothing to trim and those that it concerns let the last of its parameters stay. -/
theorem cleaned_again (s : Sanitizer) {rules : Ruleset} {url : Text} {r : Result}
    (h : s.sanitize url rules = .ok r) (hn : r.outcome ≠ .blocked) :
    (rules.Spares r.url → s.clean r.url rules 0 = .ok r.url) ∧
      (s.clean r.url rules 0 = .ok r.url → r.url = [] ∨ rules.Spares r.url) ∧
      ((∀ p ∈ rules.providers, p.Plain) → rules.names.Nodup →
        (∀ p ∈ rules.providers, p.concerns r.url = true → p.name ∈ r.matched) →
        (s.clean r.url rules 0 = .ok r.url ↔ trim r.url = r.url ∧
          ∀ p ∈ rules.providers, p.concerns r.url = true → Query.LastSpared p.removalPatterns r.url)) := by
  have only : s.clean r.url rules 0 = .ok r.url → r.url = [] ∨ rules.Spares r.url := fun again =>
    (Decidable.em (r.url = [])).imp_right (spares_of_clean s again)
  refine ⟨clean_of_spares s, only, fun plain unique all => ⟨fun again => ?_, fun ⟨trimmed, last⟩ => ?_⟩⟩
  · rcases only again with empty | spared
    · rw [empty]
      refine ⟨rfl, fun p _ _ parts hs => Or.inr (Or.inl ?_)⟩
      cases hs
      rfl
    · exact ⟨spared.trimmed, fun p hp hc => (Query.spared_iff.mp (spared.providers p hp hc).query).2⟩
  · refine clean_of_spares s ⟨trimmed, fun p hp hc => ?_⟩
    obtain ⟨passes, butLast⟩ := sparedButLast_of_matched plain unique h hn hp (all p hp hc)
    obtain ⟨noRedirections, noRawRules⟩ := plain p hp
    refine ⟨passes, ?_, Query.spared_iff.mpr ⟨butLast, last p hp hc⟩, ?_⟩
    · rw [noRedirections]
      exact List.forall_mem_nil _
    · rw [noRawRules]
      exact List.forall_mem_nil _

/-- A trim takes one slash, so a URL that ends in two does not stay as it was left. -/
theorem slashes_go_one_by_one : ¬ ∀ (s : Sanitizer) (rules : Ruleset) (url : Text) (r : Result),
    s.sanitize url rules = .ok r → r.outcome ≠ .blocked → s.clean r.url rules 0 = .ok r.url := by
  intro h
  have once : standard.sanitize "https://shop.example//".toList campaigns =
      .ok ⟨.cleaned, "https://shop.example//".toList, "https://shop.example/".toList, ["campaign".toList]⟩ := by
    decide +kernel
  have twice : standard.clean "https://shop.example/".toList campaigns 0 = .ok "https://shop.example".toList := by
    decide +kernel
  have stays := h standard campaigns _ _ once Outcome.noConfusion
  rw [twice] at stays
  exact absurd stays (by decide)

/-- A link that loses a parameter, a question mark and a slash, and then nothing more. -/
theorem campaigns_cleaned_again :
    let url := "https://shop.example/?utm_id=1&q=a/?".toList
    let w := "https://shop.example/?q=a".toList
    let r : Result := ⟨.cleaned, url, w, ["campaign".toList, "search".toList]⟩
    standard.sanitize url campaigns = .ok r ∧ r.outcome ≠ .blocked ∧ (∀ p ∈ campaigns.providers, p.Plain) ∧
      campaigns.names.Nodup ∧ (∀ p ∈ campaigns.providers, p.concerns w = true → p.name ∈ r.matched) ∧
      standard.clean w campaigns 0 = .ok w ∧ campaigns.Spares w ∧
      ∀ p ∈ campaigns.providers, p.concerns w = true → Query.LastSpared p.removalPatterns w := by
  intro url w r
  have run : standard.sanitize url campaigns = .ok r := by decide +kernel
  have unique : campaigns.names.Nodup := by decide +kernel
  have all : ∀ p ∈ campaigns.providers, p.concerns w = true → p.name ∈ r.matched := by decide +kernel
  have again : standard.clean w campaigns 0 = .ok w := by decide +kernel
  obtain ⟨_, only, filters⟩ := cleaned_again standard run Outcome.noConfusion
  have spared : campaigns.Spares w := (only again).resolve_left (by decide)
  exact ⟨run, Outcome.noConfusion, campaigns_plain, unique, all, again, spared,
    ((filters campaigns_plain unique all).mp again).2⟩

end Sanitizer
end Untrack
