/-
  Untrack.Proofs.Sanitizer.Spared — the URLs that cleaning leaves as they are. Those are the URLs that do not end in a
  question mark or a slash and in which the providers that they concern find nothing to do (`Ruleset.Spares`): such a
  URL is left alone (`clean_of_spares`), and no other is, the empty one apart (`spares_of_clean`).

  One way follows the providers through. The other rests on lengths. Nothing that is done to a URL makes it longer: a
  target is a decoded piece of the URL, parameters and whatever raw rules match only go. So what comes back as it
  was, at whatever level, was not changed on the way.
-/

import Untrack.Proofs.Query.Shortening
import Untrack.Proofs.Sanitizer.Redirections
import Untrack.Proofs.Sanitizer.Trim
import Untrack.Proofs.Text.Shrinks
import Untrack.Proofs.Url.Percent

namespace Untrack

/-- A provider lets the URL pass, and none of its redirections, parameters or raw rules is in it. -/
structure Provider.Spares (p : Provider) (url : Text) : Prop where
  passes : p.complete = false
  leadsNowhere : ∀ r ∈ p.redirections, Sanitizer.target? r url = .ok none
  query : Query.Spared p.removalPatterns url
  raw : ∀ r ∈ p.rawRules, r.delete url = url

/-- The URL has nothing to trim, and the providers that it concerns find nothing to do in it. -/
structure Ruleset.Spares (rules : Ruleset) (url : Text) : Prop where
  trimmed : Sanitizer.trim url = url
  providers : ∀ p ∈ rules.providers, p.concerns url = true → p.Spares url

namespace Sanitizer

variable {follow : Text → Except CleanFault Visit} {rules : Ruleset} {p : Provider} {url : Text}

/-! ## Each thing that is done makes the URL no longer -/

theorem target?_shrinks {r : Redirection} {target : Text} (h : target? r url = .ok (some target)) :
    url.Shrinks target := by
  unfold target? at h
  split at h
  · cases h
  split at h
  · cases h
  rename_i m _ g hg
  cases g with
  | none => cases h
  | some g =>
    cases h
    exact (Text.Shrinks.of_sublist (Pattern.Match.group?_sublist hg)).trans (Url.Percent.decode_shrinks g)

/-- Raw rules one after the other. -/
theorem deleteAll_sublist (raw : List Pattern) (url : Text) : (raw.foldl (fun u r => r.delete u) url).Sublist url := by
  induction raw generalizing url with
  | nil => exact List.Sublist.refl url
  | cons q raw ih => exact (ih (q.delete url)).trans (Pattern.delete_sublist q url)

/-- What comes back as it was has nothing in it that one of the raw rules matches. -/
theorem deleteAll_eq_self {raw : List Pattern} :
    raw.foldl (fun u r => r.delete u) url = url ↔ ∀ r ∈ raw, r.delete url = url := by
  induction raw with
  | nil => simp
  | cons q raw ih =>
    rw [List.foldl_cons, List.forall_mem_cons, ← ih]
    constructor
    · intro h
      have rest : (q.delete url).Shrinks _ := .of_sublist (deleteAll_sublist raw (q.delete url))
      rw [h] at rest
      have same : q.delete url = url := (Text.Shrinks.of_sublist (Pattern.delete_sublist q url)).antisymm rest
      rw [same] at h
      exact ⟨same, h⟩
    · rintro ⟨same, h⟩
      rw [same, h]

/-! ## Spared URLs are left alone -/

theorem apply_of_spares (h : p.Spares url) : apply follow p url = .ok ⟨url, [p.name], false⟩ := by
  have query : cleanQuery p url = .ok url := mapError_ok.mpr (Query.clean_of_spared h.query)
  refine apply_ok.mpr (Or.inr ⟨h.passes, _, followAll_of_none h.leadsNowhere _, Or.inr ⟨rfl, url, query, ?_⟩⟩)
  rw [deleteRaw, deleteAll_eq_self.mpr h.raw]

/-- Providers that find nothing to do are noted, and the URL is trimmed. -/
theorem visit_of_spares {ps : List Provider} (h : ∀ p ∈ ps, p.concerns url = true → p.Spares url) :
    visit follow ps url = .ok ⟨trim url, (ps.filter (·.concerns url)).map (·.name), false⟩ := by
  induction ps with
  | nil => rfl
  | cons p ps ih =>
    have rest := ih fun q hq => h q (List.mem_cons_of_mem _ hq)
    cases hc : p.concerns url with
    | false =>
      rw [List.filter_cons, if_neg (by simp [hc])]
      exact visit_cons_ok.mpr (Or.inl ⟨hc, rest⟩)
    | true =>
      rw [List.filter_cons, if_pos hc]
      have here : apply follow p url = .ok ⟨url, [p.name], false⟩ := apply_of_spares (h p List.mem_cons_self hc)
      exact visit_cons_ok.mpr (Or.inr ⟨hc, _, here, Or.inr ⟨rfl, _, rest, rfl⟩⟩)

theorem clean_of_spares (s : Sanitizer) (h : rules.Spares url) : s.clean url rules 0 = .ok url := by
  rw [clean_eq_sanitize, sanitize, resolve, visit_of_spares h.providers, h.trimmed]
  rfl

/-! ## Only spared URLs are -/

/-- A result that is not blocked is no longer than the URL, and the URL itself only if it is spared. -/
def Sparing (rules : Ruleset) (follow : Text → Except CleanFault Visit) : Prop :=
  ∀ url v, follow url = .ok v → v.blocked = false → url.Shrinks v.url ∧ (v.url = url → rules.Spares url)

theorem apply_sparing (hf : Sparing rules follow) (hp : p ∈ rules.providers) (hc : p.concerns url = true) {v : Visit}
    (h : apply follow p url = .ok v) (hb : v.blocked = false) : url.Shrinks v.url ∧ (v.url = url → p.Spares url) := by
  obtain ⟨passes, x, u, hx, hxb, hu, rfl⟩ := apply_ok_unblocked h hb
  have raw : u.Shrinks (deleteRaw p u) := .of_sublist (deleteAll_sublist p.rawRules u)
  have filtered := Query.clean_cases (mapError_ok.mp hu)
  have query : x.url.Shrinks u := filtered.imp_left And.left
  rcases followAll_cases hx hxb with ⟨rfl, leadsNowhere⟩ | ⟨r, target, y, ht, _, hy, hyb, same⟩
  · refine ⟨query.trans raw, fun back => ?_⟩
    dsimp only at back query filtered
    have unfiltered : u = url := query.antisymm (back ▸ raw)
    subst unfiltered
    rcases filtered with ⟨_, spared⟩ | shorter
    · exact ⟨passes, leadsNowhere, spared, deleteAll_eq_self.mp back⟩
    · exact absurd shorter (Nat.lt_irrefl _)
  · -- the target is cleaned a level deeper; if it comes back as the URL itself, the URL is spared there
    obtain ⟨cleaned, spared⟩ := hf target y hy hyb
    have rest : y.url.Shrinks (deleteRaw p u) := same ▸ query.trans raw
    have found := target?_shrinks ht
    refine ⟨(found.trans cleaned).trans rest, fun back => ?_⟩
    dsimp only at back
    rw [back] at rest
    have same : target = url := found.antisymm (cleaned.trans rest)
    subst same
    exact (spared (cleaned.antisymm rest)).providers p hp hc

theorem visit_sparing (hf : Sparing rules follow) {ps : List Provider} (hps : ∀ p ∈ ps, p ∈ rules.providers)
    {v : Visit} (h : visit follow ps url = .ok v) (hb : v.blocked = false) :
    url.Shrinks v.url ∧ (v.url = url → trim url = url ∧ ∀ p ∈ ps, p.concerns url = true → p.Spares url) := by
  induction ps generalizing url v with
  | nil =>
    rw [visit_nil_ok.mp h]
    exact ⟨.of_sublist (trim_sublist url), fun trimmed => ⟨trimmed, fun _ hp => nomatch hp⟩⟩
  | cons p ps ih =>
    have hps' : ∀ q ∈ ps, q ∈ rules.providers := fun q hq => hps q (List.mem_cons_of_mem _ hq)
    rcases visit_cons_ok_unblocked h hb with ⟨hc, h⟩ | ⟨hc, x, w, hx, hxb, hw, hwb, rfl⟩
    · obtain ⟨shrinks, spared⟩ := ih hps' h hb
      refine ⟨shrinks, fun back => ?_⟩
      obtain ⟨trimmed, rest⟩ := spared back
      exact ⟨trimmed, List.forall_mem_cons.mpr ⟨fun hc' => absurd hc' (by simp [hc]), rest⟩⟩
    · obtain ⟨here, spared⟩ := apply_sparing hf (hps p List.mem_cons_self) hc hx hxb
      obtain ⟨shrinks, others⟩ := ih hps' hw hwb
      refine ⟨here.trans shrinks, fun back => ?_⟩
      dsimp only at back
      rw [back] at shrinks
      have same : x.url = url := here.antisymm shrinks
      rw [same] at others
      obtain ⟨trimmed, rest⟩ := others back
      exact ⟨trimmed, List.forall_mem_cons.mpr ⟨fun _ => spared same, rest⟩⟩

/-- At every level: induction on the levels left. -/
theorem resolve_sparing (rules : Ruleset) (cap room : Nat) : Sparing rules (resolve rules cap room) := by
  induction room with
  | zero => exact fun _ _ h => nomatch h
  | succ n ih =>
    intro url v h hb
    obtain ⟨shrinks, spared⟩ := visit_sparing ih (fun _ hp => hp) h hb
    refine ⟨shrinks, fun back => ?_⟩
    obtain ⟨trimmed, providers⟩ := spared back
    exact ⟨trimmed, providers⟩

/-- A URL that is not empty and comes back as it was is spared. -/
theorem spares_of_clean (s : Sanitizer) (h : s.clean url rules 0 = .ok url) (hne : url ≠ []) : rules.Spares url := by
  obtain ⟨v, hv, h⟩ := except_bind_ok.mp h
  have back : v.url = url := Except.ok.inj h
  have unblocked : v.blocked = false := by
    cases hb : v.blocked with
    | false => rfl
    | true => exact absurd (back.symm.trans (resolve_blocked_url hv hb)) hne
  exact (resolve_sparing rules _ _ url v hv unblocked).2 back

end Sanitizer
end Untrack
