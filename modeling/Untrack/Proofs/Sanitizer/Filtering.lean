/-
  Untrack.Proofs.Sanitizer.Filtering — what is left of a URL if no provider has redirections or raw rules. The
  providers filter one after the other, each what the one before left, and each looks whether it concerns the URL as
  it stands by then. All of it comes to one filter of the URL as it came, by the patterns of all providers that were
  noted (`filtered_in_one_pass`), and to a fault exactly if the first provider that concerns the URL lets it pass
  and it has no scheme or no host.
-/

import Untrack.Proofs.Query.Filter
import Untrack.Proofs.Ruleset.Handmade
import Untrack.Proofs.Sanitizer.Outcome

namespace Untrack

/-- A provider that looks at nothing but the parameters of a URL. -/
structure Provider.Plain (p : Provider) : Prop where
  redirections : p.redirections = []
  rawRules : p.rawRules = []

namespace Sanitizer

/-- Whether a segment is not empty and none of the providers has a pattern that matches its key. -/
def survives (ms : List Provider) (segment : Text) : Bool :=
  !segment.isEmpty && ms.all fun p => p.removalPatterns.all fun r => !r.matchesIn (Query.key segment)

/-- A URL without the segments that do not survive the providers; as it came if none of them has a pattern. -/
def withoutTracking (ms : List Provider) (url : Text) : Text :=
  if ms.all (·.removalPatterns.isEmpty) then url else Query.keepOnly (survives ms) url

/-- The providers that concern a URL, each as those noted before have left it. -/
def concerned (url : Text) (noted : List Provider) : List Provider → List Provider
  | [] => []
  | p :: ps =>
    if p.concerns (withoutTracking noted url) then p :: concerned url (noted ++ [p]) ps
    else concerned url noted ps

variable {url : Text}

theorem concerned_sublist (url : Text) (noted ps : List Provider) : (concerned url noted ps).Sublist ps := by
  induction ps generalizing noted with
  | nil => exact .slnil
  | cons p ps ih =>
    unfold concerned
    split
    · exact (ih _).cons_cons p
    · exact (ih _).cons p

/-! ## One filter -/

theorem survives_eq (ms : List Provider) (segment : Text) :
    survives ms segment = Query.isKept (ms.flatMap (·.removalPatterns)) segment := by
  simp [survives, Query.isKept, Query.isTracking, List.any_flatMap, List.not_any_eq_all_not]

theorem withoutTracking_eq (ms : List Provider) (url : Text) :
    withoutTracking ms url = Query.without (ms.flatMap (·.removalPatterns)) url := by
  have none : (ms.all (·.removalPatterns.isEmpty)) = true ↔ ms.flatMap (·.removalPatterns) = [] := by
    simp [List.flatMap_eq_nil_iff]
  unfold withoutTracking Query.without
  simp only [none, funext (survives_eq ms)]

/-- A provider takes out of what others left what it takes out with them. -/
theorem cleanQuery_withoutTracking {parts : Url.Parts} (h : Url.wellFormed url = .ok parts) (ms : List Provider)
    (p : Provider) : cleanQuery p (withoutTracking ms url) = .ok (withoutTracking (ms ++ [p]) url) := by
  unfold cleanQuery
  rw [withoutTracking_eq, withoutTracking_eq, Query.clean_without h]
  simp

/-! ## Plain providers one after the other -/

theorem apply_plain (follow : Text → Except CleanFault Visit) {p : Provider} (hp : p.Plain) (url : Text) :
    apply follow p url =
      if p.complete then .ok ⟨[], [p.name], true⟩ else (cleanQuery p url).map fun u => ⟨u, [p.name], false⟩ := by
  unfold apply
  rw [hp.redirections]
  cases p.complete with
  | true => rfl
  | false =>
    have raw : ∀ u, deleteRaw p u = u := fun u => by rw [deleteRaw, hp.rawRules]; rfl
    show (cleanQuery p url >>= fun u => (.ok ⟨deleteRaw p u, [p.name], false⟩ : Except CleanFault Visit)) =
      (cleanQuery p url).map fun u => ⟨u, [p.name], false⟩
    simp only [raw]
    cases cleanQuery p url <;> rfl

/-- A well-formed URL is blocked, or filtered by the providers that concern it: induction on those to come. -/
theorem visit_wellFormed (follow : Text → Except CleanFault Visit) {parts : Url.Parts}
    (h : Url.wellFormed url = .ok parts) {ps : List Provider} (hps : ∀ p ∈ ps, p.Plain) (noted : List Provider) :
    ∃ v, visit follow ps (withoutTracking noted url) = .ok v ∧ (v.blocked = false →
      v.matched = (concerned url noted ps).map (·.name) ∧
        v.url = trim (withoutTracking (noted ++ concerned url noted ps) url)) := by
  induction ps generalizing noted with
  | nil => exact ⟨_, rfl, fun _ => ⟨rfl, by rw [concerned, List.append_nil]⟩⟩
  | cons p ps ih =>
    have hps' : ∀ q ∈ ps, q.Plain := fun q hq => hps q (List.mem_cons_of_mem _ hq)
    cases hc : p.concerns (withoutTracking noted url) with
    | false =>
      rw [concerned, hc]
      obtain ⟨v, hv, hleft⟩ := ih hps' noted
      exact ⟨v, visit_cons_ok.mpr (Or.inl ⟨hc, hv⟩), hleft⟩
    | true =>
      rw [concerned, if_pos hc]
      have hx := apply_plain follow (hps p List.mem_cons_self) (withoutTracking noted url)
      rw [cleanQuery_withoutTracking h] at hx
      cases hcomplete : p.complete with
      | true =>
        rw [hcomplete] at hx
        exact ⟨_, visit_cons_ok.mpr (Or.inr ⟨hc, _, hx, Or.inl ⟨rfl, rfl⟩⟩), fun hb => nomatch hb⟩
      | false =>
        rw [hcomplete] at hx
        obtain ⟨w, hw, hleft⟩ := ih hps' (noted ++ [p])
        refine ⟨_, visit_cons_ok.mpr (Or.inr ⟨hc, _, hx, Or.inr ⟨rfl, w, hw, rfl⟩⟩), fun hb => ?_⟩
        obtain ⟨hmatched, hurl⟩ := hleft hb
        refine ⟨by rw [hmatched]; rfl, ?_⟩
        rw [hurl, List.append_assoc]
        rfl

/-- A URL that is not well-formed gets as far as the first provider that concerns it. -/
theorem visit_refused (follow : Text → Except CleanFault Visit) {reason : Url.Refusal}
    (h : Url.wellFormed url = .error reason) {ps : List Provider} (hps : ∀ p ∈ ps, p.Plain) :
    visit follow ps url = match ps.find? (·.concerns url) with
      | none => .ok ⟨trim url, [], false⟩
      | some p => if p.complete then .ok ⟨[], [p.name], true⟩ else .error (.invalidUrl url reason) := by
  induction ps with
  | nil => rfl
  | cons p ps ih =>
    rw [visit, List.find?_cons]
    cases hc : p.concerns url with
    | false => exact ih fun q hq => hps q (List.mem_cons_of_mem _ hq)
    | true =>
      have refused : cleanQuery p url = .error (.invalidUrl url reason) := by
        rw [cleanQuery, Query.clean, h]
        rfl
      dsimp only
      rw [apply_plain follow (hps p List.mem_cons_self), refused]
      cases p.complete <;> rfl

/-! ## The run -/

theorem concerned_of_none {ps : List Provider} (h : ∀ p ∈ ps, p.concerns url = false) : concerned url [] ps = [] := by
  induction ps with
  | nil => rfl
  | cons p ps ih =>
    have passed : p.concerns (withoutTracking [] url) = false := h p List.mem_cons_self
    rw [concerned, passed]
    exact ih fun q hq => h q (List.mem_cons_of_mem _ hq)

theorem sanitize_eq (s : Sanitizer) (url : Text) (rules : Ruleset) :
    s.sanitize url rules = (visit (resolve rules s.cap s.cap) rules.providers url).map fun v =>
      ⟨outcomeOf url v, url, if v.blocked then [] else v.url, v.matched⟩ := by
  show (resolve rules s.cap (s.cap + 1) url >>= fun v => _) = _
  rw [resolve]
  cases visit (resolve rules s.cap s.cap) rules.providers url <;> rfl

theorem sanitize_wellFormed (s : Sanitizer) {rules : Ruleset} (plain : ∀ p ∈ rules.providers, p.Plain)
    {parts : Url.Parts} (h : Url.wellFormed url = .ok parts) :
    ∃ r, s.sanitize url rules = .ok r ∧ (r.outcome ≠ .blocked →
      r.matched = (concerned url [] rules.providers).map (·.name) ∧
        r.url = trim (withoutTracking (concerned url [] rules.providers) url)) := by
  obtain ⟨v, hv, hleft⟩ := visit_wellFormed (resolve rules s.cap s.cap) h plain []
  have hv : visit (resolve rules s.cap s.cap) rules.providers url = .ok v := hv
  refine ⟨_, by rw [sanitize_eq, hv]; rfl, fun hn => ?_⟩
  have unblocked : v.blocked = false := by
    rw [ne_eq, outcomeOf_eq_blocked] at hn
    simpa using hn
  dsimp only
  rw [unblocked]
  exact hleft unblocked

theorem sanitize_refused (s : Sanitizer) {rules : Ruleset} (plain : ∀ p ∈ rules.providers, p.Plain)
    {reason : Url.Refusal} (h : Url.wellFormed url = .error reason) :
    s.sanitize url rules = match rules.providers.find? (·.concerns url) with
      | none => .ok ⟨.unchanged, url, trim url, []⟩
      | some p => if p.complete then .ok ⟨.blocked, url, [], [p.name]⟩ else .error (.invalidUrl url reason) := by
  rw [sanitize_eq, visit_refused _ h plain]
  cases rules.providers.find? (·.concerns url) with
  | none => rfl
  | some p => cases hc : p.complete <;> simp [hc, Except.map, outcomeOf]

/-- Cleaning a URL by providers without redirections and raw rules. A result that is not blocked notes the providers
that concern the URL as those noted before them have left it, and its URL is what one filter by all of them leaves,
trimmed. Cleaning fails exactly if the first provider that concerns the URL does not block it and the URL cannot be
taken apart or has no scheme or no host, and the fault says no more than that. -/
theorem filtered_in_one_pass (s : Sanitizer) {rules : Ruleset} (plain : ∀ p ∈ rules.providers, p.Plain) (url : Text) :
    (∀ r, s.sanitize url rules = .ok r → r.outcome ≠ .blocked →
      ∃ ms, ms = concerned url [] rules.providers ∧ ms.Sublist rules.providers ∧ r.matched = ms.map (·.name) ∧
        r.url = trim (withoutTracking ms url)) ∧
    ((∃ v reason, s.sanitize url rules = .error (.invalidUrl v reason)) ↔
      ∃ p, rules.providers.find? (·.concerns url) = some p ∧ p.complete = false ∧
        ¬ ∃ parts, Url.split url = .ok parts ∧ parts.scheme ≠ [] ∧ parts.authority ≠ []) ∧
    ∀ f, s.sanitize url rules = .error f → ∃ reason, f = .invalidUrl url reason := by
  cases h : Url.wellFormed url with
  | ok parts =>
    have readable := Url.wellFormed_ok.mp h
    obtain ⟨r, hr, hleft⟩ := sanitize_wellFormed s plain h
    rw [hr]
    refine ⟨?_, ?_, fun f e => nomatch e⟩
    · rintro _ ⟨⟩ hn
      exact ⟨_, rfl, concerned_sublist _ _ _, hleft hn⟩
    · refine ⟨?_, ?_⟩
      · rintro ⟨_, _, ⟨⟩⟩
      · rintro ⟨p, _, _, hp⟩
        exact absurd ⟨parts, readable⟩ hp
  | error reason =>
    have unreadable : ¬ ∃ parts, Url.split url = .ok parts ∧ parts.scheme ≠ [] ∧ parts.authority ≠ [] := by
      rintro ⟨parts, hp⟩
      rw [Url.wellFormed_ok.mpr hp] at h
      cases h
    rw [sanitize_refused s plain h]
    cases hf : rules.providers.find? (·.concerns url) with
    | none =>
      have nobody : concerned url [] rules.providers = [] :=
        concerned_of_none fun p hp => by simpa using List.find?_eq_none.mp hf p hp
      refine ⟨?_, by simp, fun f e => nomatch e⟩
      rintro _ ⟨⟩ _
      exact ⟨_, rfl, concerned_sublist _ _ _, by rw [nobody]; rfl, by rw [nobody]; rfl⟩
    | some p => cases hc : p.complete <;> simp [hc, unreadable]

/-- A shop that adds a campaign to its links, and a search that concerns only links without one. -/
def campaigns : Ruleset := ⟨[
  { Provider.concerning "campaign" "shop\\." with rules := [.ofSource "^utm_"] },
  { Provider.concerning "search" "\\?q" with referralMarketing := [.ofSource "^ref$"] }]⟩

theorem campaigns_plain : ∀ p ∈ campaigns.providers, p.Plain := by
  intro p hp
  simp only [campaigns, List.mem_cons, List.not_mem_nil, or_false] at hp
  rcases hp with rfl | rfl <;> exact ⟨rfl, rfl⟩

/-- The second provider concerns only what the first leaves, and an empty segment and a key that is written otherwise
go with the others. A link without a scheme is a fault. -/
theorem campaigns_filtered :
    let url := "HTTP://shop.example/?UTM%5Fid=1&q=a&&REF=2#top".toList
    (∀ p ∈ campaigns.providers, p.Plain) ∧
      (∃ r, standard.sanitize url campaigns = .ok r ∧ r.outcome ≠ .blocked ∧ r.matched = campaigns.names ∧
        r.url = "http://shop.example/?q=a#top".toList ∧
        ∃ ms, ms = concerned url [] campaigns.providers ∧ r.matched = ms.map (·.name) ∧
          r.url = trim (withoutTracking ms url)) ∧
      ∃ v reason, standard.sanitize "//shop.example".toList campaigns = .error (.invalidUrl v reason) := by
  intro url
  have run : standard.sanitize url campaigns = .ok
      ⟨.cleaned, url, "http://shop.example/?q=a#top".toList, ["campaign".toList, "search".toList]⟩ := by
    decide +kernel
  have first : campaigns.providers.find? (·.concerns "//shop.example".toList) = campaigns.providers.head? := by
    decide +kernel
  have nowhere : Url.split "//shop.example".toList = .ok ⟨[], "shop.example".toList, [], [], []⟩ := by
    decide +kernel
  obtain ⟨ms, hms, _, hmatched, hurl⟩ :=
    (filtered_in_one_pass standard campaigns_plain url).1 _ run Outcome.noConfusion
  refine ⟨campaigns_plain, ⟨_, run, Outcome.noConfusion, rfl, rfl, ms, hms, hmatched, hurl⟩, ?_⟩
  refine (filtered_in_one_pass standard campaigns_plain "//shop.example".toList).2.1.mpr ⟨_, first, rfl, ?_⟩
  rintro ⟨parts, hp, hs, _⟩
  rw [nowhere] at hp
  cases hp
  exact hs rfl

end Sanitizer
end Untrack
