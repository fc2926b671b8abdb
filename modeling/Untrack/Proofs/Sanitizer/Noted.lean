/-
  Untrack.Proofs.Sanitizer.Noted — the providers noted explain the result: a rule set that loses providers which were
  not noted cleans the URL to the same result (`unnoted_have_no_say`). A provider that is passed over at one level may
  have been noted at another, so the runs are compared at every level, and there the results that note none of those
  taken out (`Matches`). What a result notes it has from the levels below and from the providers before, so none of
  these noted any of them either.
-/

import Untrack.Proofs.Sanitizer.Outcome

namespace Untrack

/-- The rule set with only those providers that are kept. -/
def Ruleset.only (rules : Ruleset) (keep : Provider → Bool) : Ruleset := ⟨rules.providers.filter keep⟩

namespace Sanitizer

variable {follow follow' : Text → Except CleanFault Visit} {gone : Text → Prop}

/-- `follow'` gives the results of `follow` that note none of those who are gone. -/
def Matches (gone : Text → Prop) (follow follow' : Text → Except CleanFault Visit) : Prop :=
  ∀ t x, follow t = .ok x → (∀ n ∈ x.matched, ¬ gone n) → follow' t = .ok x

theorem followAll_without (hf : Matches gone follow follow') {source : Text} {rs : List Redirection} {v w : Visit}
    (h : followAll follow source rs v = .ok w) (hw : ∀ n ∈ w.matched, ¬ gone n) :
    followAll follow' source rs v = .ok w := by
  induction rs generalizing v with
  | nil => exact h
  | cons r rs ih =>
    rcases followAll_cons_ok.mp h with ⟨ht, h⟩ | ⟨target, x, ht, hx, h⟩
    · exact followAll_cons_ok.mpr (Or.inl ⟨ht, ih h⟩)
    have noted : ∀ n ∈ x.matched, n ∈ w.matched := by
      intro n hn
      split at h
      · rw [h]
        exact List.mem_append_right _ hn
      · exact (followAll_matched h).subset (List.mem_append_right _ hn)
    refine followAll_cons_ok.mpr (Or.inr ⟨target, x, ht, hf target x hx fun n hn => hw n (noted n hn), ?_⟩)
    split at h
    · rwa [if_pos ‹_›]
    · rw [if_neg ‹_›]
      exact ih h

theorem apply_without (hf : Matches gone follow follow') {p : Provider} {url : Text} {v : Visit}
    (h : apply follow p url = .ok v) (hv : ∀ n ∈ v.matched, ¬ gone n) : apply follow' p url = .ok v := by
  rcases apply_ok.mp h with blocked | ⟨hc, x, hx, rest⟩
  · exact apply_ok.mpr (Or.inl blocked)
  have same : v.matched = x.matched := by
    rcases rest with ⟨_, rfl⟩ | ⟨_, u, _, rfl⟩ <;> rfl
  exact apply_ok.mpr (Or.inr ⟨hc, x, followAll_without hf hx (same ▸ hv), rest⟩)

/-- Passing over those who are gone: they would have been noted had they concerned the URL. -/
theorem visit_without (hf : Matches gone follow follow') {keep : Provider → Bool} {ps : List Provider}
    (hk : ∀ p ∈ ps, keep p = false → gone p.name) {url : Text} {v : Visit} (h : visit follow ps url = .ok v)
    (hv : ∀ n ∈ v.matched, ¬ gone n) : visit follow' (ps.filter keep) url = .ok v := by
  induction ps generalizing url v with
  | nil => exact h
  | cons p ps ih =>
    have hk' : ∀ q ∈ ps, keep q = false → gone q.name := fun q hq => hk q (List.mem_cons_of_mem _ hq)
    rcases visit_cons_ok.mp h with ⟨hc, h⟩ | ⟨hc, x, hx, h⟩
    · have rest := ih hk' h hv
      cases hp : keep p with
      | false => rwa [List.filter_cons_of_neg (by simp [hp])]
      | true =>
        rw [List.filter_cons_of_pos hp]
        exact visit_cons_ok.mpr (Or.inl ⟨hc, rest⟩)
    have noted : ∀ n ∈ x.matched, n ∈ v.matched := by
      rcases h with ⟨_, rfl⟩ | ⟨_, w, _, rfl⟩
      · exact fun _ hn => hn
      · exact fun _ hn => List.mem_append_left _ hn
    have here : p.name ∈ v.matched := noted _ ((apply_matched hx).subset List.mem_cons_self)
    have kept : keep p = true := by
      cases hp : keep p with
      | true => rfl
      | false => exact absurd (hk p List.mem_cons_self hp) (hv _ here)
    rw [List.filter_cons_of_pos kept]
    refine visit_cons_ok.mpr (Or.inr ⟨hc, x, apply_without hf hx fun n hn => hv n (noted n hn), ?_⟩)
    rcases h with blocked | ⟨hb, w, hw, rfl⟩
    · exact Or.inl blocked
    · exact Or.inr ⟨hb, w, ih hk' hw fun n hn => hv n (List.mem_append_right _ hn), rfl⟩

/-- At every level: induction on the levels left. -/
theorem resolve_without {rules : Ruleset} {keep : Provider → Bool} (cap room : Nat)
    (hk : ∀ p ∈ rules.providers, keep p = false → gone p.name) :
    Matches gone (resolve rules cap room) (resolve (rules.only keep) cap room) := by
  induction room with
  | zero => exact fun _ _ h => nomatch h
  | succ n ih => exact fun t x h hx => visit_without ih hk h hx

/-- Providers that were not noted can be taken out of the rule set: the URL is cleaned to the very same result, the
outcome, the URL that is left and those noted. So a blocking provider leaves nothing to say to those after it that
were not noted before. -/
theorem unnoted_have_no_say (s : Sanitizer) {rules : Ruleset} {url : Text} {r : Result}
    (h : s.sanitize url rules = .ok r) (keep : Provider → Bool)
    (unnoted : ∀ p ∈ rules.providers, keep p = false → p.name ∉ r.matched) :
    s.sanitize url (rules.only keep) = .ok r := by
  obtain ⟨v, hv, rfl⟩ := sanitize_ok h
  have same : Matches (fun n => ∃ p ∈ rules.providers, keep p = false ∧ p.name = n) (resolve rules s.cap (s.cap + 1))
      (resolve (rules.only keep) s.cap (s.cap + 1)) :=
    resolve_without s.cap (s.cap + 1) fun p hp hk => ⟨p, hp, hk, rfl⟩
  unfold sanitize
  refine except_bind_ok.mpr ⟨v, same url v hv ?_, rfl⟩
  rintro _ hn ⟨p, hp, hk, rfl⟩
  exact unnoted p hp hk hn

/-- A page that links to a tracker, and two providers without a say: one concerns neither of them, and one would
concern both but comes after the provider that blocks the tracker. -/
def bystanders : Ruleset := ⟨[
  { Provider.concerning "link" "link\\." with redirections := [⟨"link#0".toList, .ofSource "to=(.*)"⟩] },
  { Provider.concerning "other" "other\\." with rules := [.ofSource "."] },
  { Provider.concerning "tracker" "^https://track" with complete := true },
  { Provider.concerning "zone" "example" with rawRules := [.ofSource "e"] }]⟩

theorem bystanders_removed :
    let url := "http://link.example/?to=https://track.example/".toList
    let keep := fun p : Provider => ["link".toList, "tracker".toList].contains p.name
    let r : Result := ⟨.blocked, url, [], ["link".toList, "tracker".toList]⟩
    standard.sanitize url bystanders = .ok r ∧
      (∀ p ∈ bystanders.providers, keep p = false → p.name ∉ r.matched) ∧
      (bystanders.only keep).size = 2 ∧ standard.sanitize url (bystanders.only keep) = .ok r := by
  intro url keep r
  have run : standard.sanitize url bystanders = .ok r := by decide +kernel
  have unnoted : ∀ p ∈ bystanders.providers, keep p = false → p.name ∉ r.matched := by decide +kernel
  exact ⟨run, unnoted, by decide +kernel, unnoted_have_no_say standard run keep unnoted⟩

end Sanitizer
end Untrack
