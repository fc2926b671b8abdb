/-
  Untrack.Proofs.Sanitizer.Outcome — what became of a URL and the providers noted on the way agree
  (`outcome_agrees_with_matched`). A URL is blocked exactly if a complete provider was noted; nothing is noted after
  it, and nothing is left of the URL. Otherwise no complete provider was noted, and the URL counts as cleaned exactly
  if some provider was noted and the URL is no longer what it was. A URL that concerns nobody is only trimmed.

  The invariant is `Visit.Settled`. It holds of every result at every level, so a target that is blocked carries its
  blocking provider, as the last one noted, into the URL it was found in.
-/

import Untrack.Proofs.Ruleset.Handmade
import Untrack.Proofs.Ruleset.Names
import Untrack.Proofs.Sanitizer.Visit

namespace Untrack

/-- Every name is that of a provider that does not block. -/
def Ruleset.Harmless (rules : Ruleset) (names : List Text) : Prop :=
  ∀ n ∈ names, ∃ p ∈ rules.providers, p.name = n ∧ p.complete = false

theorem Ruleset.Harmless.append {rules : Ruleset} {a b : List Text} (ha : rules.Harmless a) (hb : rules.Harmless b) :
    rules.Harmless (a ++ b) := fun n hn => (List.mem_append.mp hn).elim (ha n) (hb n)

/-- A blocked URL is empty and was noted last by a complete provider, the only one; any other URL was noted by none. -/
def Visit.Settled (rules : Ruleset) (v : Visit) : Prop :=
  if v.blocked then
    v.url = [] ∧ ∃ front, ∃ p ∈ rules.providers, p.complete = true ∧ v.matched = front ++ [p.name] ∧
      rules.Harmless front
  else rules.Harmless v.matched

theorem Visit.Settled.noteBefore {rules : Ruleset} {v : Visit} (h : v.Settled rules) {before : List Text}
    (hb : rules.Harmless before) : ({ v with matched := before ++ v.matched } : Visit).Settled rules := by
  unfold Visit.Settled at h ⊢
  cases hv : v.blocked with
  | false =>
    simp only [hv, Bool.false_eq_true, if_false] at h ⊢
    exact hb.append h
  | true =>
    simp only [hv, if_true] at h ⊢
    obtain ⟨hu, front, p, hp, hc, hm, hf⟩ := h
    exact ⟨hu, before ++ front, p, hp, hc, by rw [hm, List.append_assoc], hb.append hf⟩

theorem Visit.Settled.harmless {rules : Ruleset} {v : Visit} (h : v.Settled rules) (hb : v.blocked = false) :
    rules.Harmless v.matched := by
  simpa only [Visit.Settled, hb, Bool.false_eq_true, if_false] using h

theorem Visit.settled_of_harmless {rules : Ruleset} {v : Visit} (hb : v.blocked = false)
    (h : rules.Harmless v.matched) : v.Settled rules := by
  simpa only [Visit.Settled, hb, Bool.false_eq_true, if_false] using h

namespace Sanitizer

variable {follow : Text → Except CleanFault Visit} {rules : Ruleset}

/-! ## Every result is settled -/

theorem followAll_settled (hf : ∀ t x, follow t = .ok x → x.Settled rules) {source : Text} {rs : List Redirection}
    {v w : Visit} (hv : rules.Harmless v.matched) (hb : v.blocked = false)
    (h : followAll follow source rs v = .ok w) : w.Settled rules := by
  induction rs generalizing v with
  | nil =>
    rw [followAll_nil_ok] at h
    exact h ▸ Visit.settled_of_harmless hb hv
  | cons r rs ih =>
    rcases followAll_cons_ok.mp h with ⟨_, h⟩ | ⟨target, x, _, hx, h⟩
    · exact ih hv hb h
    have hs := (hf target x hx).noteBefore hv
    by_cases hxb : x.blocked = true
    · rw [if_pos hxb] at h
      exact h ▸ hs
    · rw [if_neg hxb] at h
      have hxb : x.blocked = false := by simpa using hxb
      exact ih (hs.harmless hxb) hxb h

theorem apply_settled (hf : ∀ t x, follow t = .ok x → x.Settled rules) {p : Provider} (hp : p ∈ rules.providers)
    {url : Text} {v : Visit} (h : apply follow p url = .ok v) : v.Settled rules := by
  rcases apply_ok.mp h with ⟨hc, rfl⟩ | ⟨hc, x, hx, h⟩
  · exact ⟨rfl, [], p, hp, hc, rfl, fun _ hn => nomatch hn⟩
  have noted : rules.Harmless [p.name] := fun n hn => ⟨p, hp, (List.mem_singleton.mp hn).symm, hc⟩
  have hs : x.Settled rules := followAll_settled hf noted rfl hx
  rcases h with ⟨hb, rfl⟩ | ⟨hb, u, _, rfl⟩
  · simp only [Visit.Settled, hb, if_true] at hs ⊢
    exact ⟨trivial, hs.2⟩
  · exact Visit.settled_of_harmless hb (hs.harmless hb)

theorem visit_settled (hf : ∀ t x, follow t = .ok x → x.Settled rules) {ps : List Provider}
    (hps : ∀ p ∈ ps, p ∈ rules.providers) {url : Text} {v : Visit} (h : visit follow ps url = .ok v) :
    v.Settled rules := by
  induction ps generalizing url v with
  | nil =>
    rw [visit_nil_ok] at h
    exact h ▸ Visit.settled_of_harmless rfl fun _ hn => nomatch hn
  | cons p ps ih =>
    have hps' : ∀ q ∈ ps, q ∈ rules.providers := fun q hq => hps q (List.mem_cons_of_mem _ hq)
    rcases visit_cons_ok.mp h with ⟨_, h⟩ | ⟨_, x, hx, h⟩
    · exact ih hps' h
    have hs := apply_settled hf (hps p List.mem_cons_self) hx
    rcases h with ⟨_, rfl⟩ | ⟨hb, w, hw, rfl⟩
    · exact hs
    · exact (ih hps' hw).noteBefore (hs.harmless hb)

/-- Whatever the level, a result is settled: induction on the levels left. -/
theorem resolve_settled {cap room : Nat} {url : Text} {v : Visit} (h : resolve rules cap room url = .ok v) :
    v.Settled rules := by
  induction room generalizing url v with
  | zero => cases h
  | succ n ih => exact visit_settled (fun _ _ => ih) (fun _ hp => hp) h

theorem resolve_blocked_url {cap room : Nat} {url : Text} {v : Visit} (h : resolve rules cap room url = .ok v)
    (hb : v.blocked = true) : v.url = [] := by
  have settled := resolve_settled h
  simp only [Visit.Settled, hb, if_true] at settled
  exact settled.1

/-! ## A provider that concerns a URL is noted first -/

theorem followAll_matched {source : Text} {rs : List Redirection} {v w : Visit}
    (h : followAll follow source rs v = .ok w) : v.matched <+: w.matched := by
  induction rs generalizing v with
  | nil =>
    rw [followAll_nil_ok] at h
    exact h ▸ List.prefix_rfl
  | cons r rs ih =>
    rcases followAll_cons_ok.mp h with ⟨_, h⟩ | ⟨_, x, _, _, h⟩
    · exact ih h
    split at h
    · rw [h]
      exact List.prefix_append _ _
    · exact (List.prefix_append _ _).trans (ih h)

theorem apply_matched {p : Provider} {url : Text} {v : Visit} (h : apply follow p url = .ok v) :
    [p.name] <+: v.matched := by
  rcases apply_ok.mp h with ⟨_, rfl⟩ | ⟨_, x, hx, ⟨_, rfl⟩ | ⟨_, u, _, rfl⟩⟩
  · exact List.prefix_rfl
  · exact followAll_matched hx
  · exact followAll_matched hx

/-- A URL that concerns nobody is only trimmed. -/
theorem visit_of_matched_nil {ps : List Provider} {url : Text} {v : Visit} (h : visit follow ps url = .ok v)
    (hm : v.matched = []) : v = ⟨trim url, [], false⟩ := by
  induction ps with
  | nil => exact visit_nil_ok.mp h
  | cons p ps ih =>
    rcases visit_cons_ok.mp h with ⟨_, h⟩ | ⟨_, x, hx, h⟩
    · exact ih h
    have hnoted : x.matched ≠ [] := fun e => by
      have := apply_matched hx
      simp [e] at this
    rcases h with ⟨_, rfl⟩ | ⟨_, w, _, rfl⟩
    · exact absurd hm hnoted
    · exact absurd (List.append_eq_nil_iff.mp hm).1 hnoted

/-! ## The outcome -/

theorem sanitize_ok {s : Sanitizer} {url : Text} {r : Result} (h : s.sanitize url rules = .ok r) :
    ∃ v, resolve rules s.cap (s.cap + 1) url = .ok v ∧
      r = ⟨outcomeOf url v, url, if v.blocked then [] else v.url, v.matched⟩ := by
  obtain ⟨v, hv, h⟩ := except_bind_ok.mp h
  exact ⟨v, hv, by cases h; rfl⟩

theorem outcomeOf_eq_blocked {url : Text} {v : Visit} : outcomeOf url v = .blocked ↔ v.blocked = true := by
  unfold outcomeOf
  split
  · simpa
  · split <;> simp_all

theorem outcomeOf_eq_cleaned {url : Text} {v : Visit} :
    outcomeOf url v = .cleaned ↔ v.blocked = false ∧ v.matched ≠ [] ∧ v.url ≠ url := by
  unfold outcomeOf
  cases v.blocked <;> cases v.matched <;> by_cases hu : v.url = url <;> simp [hu]

theorem outcomeOf_eq_unchanged {url : Text} {v : Visit} :
    outcomeOf url v = .unchanged ↔ v.blocked = false ∧ (v.matched = [] ∨ v.url = url) := by
  unfold outcomeOf
  cases v.blocked <;> cases v.matched <;> by_cases hu : v.url = url <;> simp [hu]

/-- Cleaning gives the URL that cleaning with an outcome gives: a blocked URL is empty already. -/
theorem clean_eq_sanitize (s : Sanitizer) (url : Text) (rules : Ruleset) :
    s.clean url rules 0 = (s.sanitize url rules).map (·.url) := by
  have levels : (s.cap + 1 - (0 : Int)).toNat = s.cap + 1 := by omega
  unfold clean sanitize
  rw [levels]
  rcases hv : resolve rules s.cap (s.cap + 1) url with f | v
  · rfl
  show Except.ok v.url = Except.ok (if v.blocked then [] else v.url)
  cases hb : v.blocked with
  | false => rfl
  | true => rw [resolve_blocked_url hv hb, if_pos rfl]

/-- The outcome, the URL that is left and the providers noted agree, for a rule set made of providers. The URL is
blocked exactly if a complete provider was noted, which then is the last one noted and the only complete one, and
nothing is left of the URL. Otherwise all providers noted let URLs pass, and the URL was cleaned exactly if there is
one and the URL changed. A URL that concerned nobody is only trimmed. Cleaning without an outcome gives the same URL
and fails alike. -/
theorem outcome_agrees_with_matched (s : Sanitizer) {ps : List Provider} {rules : Ruleset}
    (hr : Ruleset.ofProviders ps = .ok rules) (url : Text) :
    (∀ r, s.sanitize url rules = .ok r →
      r.before = url ∧
      (r.outcome = .blocked ↔ ∃ n ∈ r.matched, ∃ p, rules.get? n = some p ∧ p.complete = true) ∧
      (r.outcome = .blocked → r.url = [] ∧ ∃ front p, r.matched = front ++ [p.name] ∧
        rules.get? p.name = some p ∧ p.complete = true ∧
        ∀ n ∈ front, ∃ q, rules.get? n = some q ∧ q.complete = false) ∧
      (r.outcome ≠ .blocked → (∀ n ∈ r.matched, ∃ q, rules.get? n = some q ∧ q.complete = false) ∧
        (r.outcome = .cleaned ↔ r.matched ≠ [] ∧ r.url ≠ url)) ∧
      (r.matched = [] → r.url = trim url)) ∧
    s.clean url rules 0 = (s.sanitize url rules).map (·.url) := by
  refine ⟨fun r h => ?_, clean_eq_sanitize s url rules⟩
  have unique := (Ruleset.ofProviders_ok hr).2
  have known : ∀ {names}, rules.Harmless names → ∀ n ∈ names, ∃ q, rules.get? n = some q ∧ q.complete = false := by
    intro names hn n hm
    obtain ⟨q, hq, rfl, hc⟩ := hn n hm
    exact ⟨q, Ruleset.get?_of_mem unique hq, hc⟩
  obtain ⟨v, hv, rfl⟩ := sanitize_ok h
  obtain ⟨n, _, hvisit⟩ := resolve_ok.mp hv
  have settled := resolve_settled hv
  simp only [ne_eq, outcomeOf_eq_blocked, outcomeOf_eq_cleaned]
  cases hb : v.blocked with
  | true =>
    simp only [Visit.Settled, hb, if_true] at settled
    obtain ⟨_, front, p, hp, hc, hm, hfront⟩ := settled
    have hget := Ruleset.get?_of_mem unique hp
    refine ⟨trivial, ⟨fun _ => ⟨p.name, by simp [hm], p, hget, hc⟩, fun _ => rfl⟩,
      fun _ => ⟨rfl, front, p, hm, hget, hc, known hfront⟩, fun h => absurd rfl h, fun h => ?_⟩
    rw [hm] at h
    exact absurd h (by simp)
  | false =>
    have harmless := known (settled.harmless hb)
    refine ⟨trivial, ⟨fun h => absurd h Bool.false_ne_true, ?_⟩, fun h => absurd h Bool.false_ne_true,
      fun _ => ⟨harmless, by simp⟩, fun h => ?_⟩
    · rintro ⟨n, hn, p, hp, hc⟩
      obtain ⟨q, hq, hqc⟩ := harmless n hn
      rw [hp] at hq
      cases hq
      rw [hc] at hqc
      cases hqc
    · rw [visit_of_matched_nil hvisit h]
      rfl

/-- A shop whose links lead to a tracker that is blocked. -/
def trackedShop : Ruleset := ⟨[
  { Provider.concerning "shop" "shop\\." with redirections := [⟨"shop#0".toList, .ofSource "to=(.*)"⟩] },
  { Provider.concerning "tracker" "^https://track" with complete := true }]⟩

theorem trackedShop_outcome :
    Ruleset.ofProviders trackedShop.providers = .ok trackedShop ∧
      ∃ r, standard.sanitize "http://shop.example/?to=https%3A%2F%2Ftrack.example".toList trackedShop = .ok r ∧
        r.outcome = .blocked ∧ r.matched = ["shop".toList, "tracker".toList] ∧ r.url = [] ∧
        ∃ front, ∃ p : Provider, r.matched = front ++ [p.name] ∧ p.complete = true := by
  have sorted : trackedShop.providers.mergeSort Ruleset.byName = trackedShop.providers :=
    List.mergeSort_of_pairwise (by decide +kernel)
  have made : Ruleset.ofProviders trackedShop.providers = .ok trackedShop := by
    unfold Ruleset.ofProviders
    rw [sorted]
    decide +kernel
  have run : standard.sanitize "http://shop.example/?to=https%3A%2F%2Ftrack.example".toList trackedShop = .ok
      ⟨.blocked, "http://shop.example/?to=https%3A%2F%2Ftrack.example".toList, [],
        ["shop".toList, "tracker".toList]⟩ := by decide +kernel
  obtain ⟨_, _, blocked, _⟩ := (outcome_agrees_with_matched standard made _).1 _ run
  obtain ⟨empty, front, p, hm, _, hc, _⟩ := blocked rfl
  exact ⟨made, _, run, rfl, rfl, empty, front, p, hm, hc⟩

end Sanitizer
end Untrack
