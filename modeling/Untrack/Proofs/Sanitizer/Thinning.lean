/-
  Untrack.Proofs.Sanitizer.Thinning — cleaning invents nothing (`clean_invents_nothing`). What it returns is never
  longer than the URL, whatever chain of redirections it was found at the end of: a target is a decoded piece of the URL.
  Where there are no redirections it is the URL itself with characters taken out; those that stay, stay in order, and
  only letters of the scheme may have changed their case.

  Nothing is added when a URL is put together again: a well-formed URL has the delimiters that are written, and parts
  that are empty are written without theirs.
-/

import Untrack.Proofs.Sanitizer.Levels
import Untrack.Proofs.Sanitizer.Spared

namespace Untrack.Sanitizer

variable {follow : Text → Except CleanFault Visit} {rules : Ruleset} {p : Provider} {url : Text}

/-! ## A URL that leads nowhere only loses characters -/

theorem apply_thins (none : p.redirections = []) {v : Visit} (h : apply follow p url = .ok v) : url.Thins v.url := by
  rcases apply_ok.mp h with ⟨_, rfl⟩ | ⟨_, x, hx, ⟨_, rfl⟩ | ⟨_, u, hu, rfl⟩⟩
  · exact .nil url
  · exact .nil url
  rw [none, followAll_nil_ok] at hx
  subst hx
  have query : url.Thins u := Query.clean_thins (mapError_ok.mp hu)
  exact query.trans (.of_sublist (deleteAll_sublist p.rawRules u))

theorem visit_thins {ps : List Provider} (none : ∀ p ∈ ps, p.redirections = []) {v : Visit}
    (h : visit follow ps url = .ok v) : url.Thins v.url := by
  induction ps generalizing url v with
  | nil =>
    rw [visit_nil_ok.mp h]
    exact .of_sublist (trim_sublist url)
  | cons p ps ih =>
    have none' : ∀ q ∈ ps, q.redirections = [] := fun q hq => none q (List.mem_cons_of_mem _ hq)
    rcases visit_cons_ok.mp h with ⟨_, h⟩ | ⟨_, x, hx, ⟨_, rfl⟩ | ⟨_, w, hw, rfl⟩⟩
    · exact ih none' h
    · exact apply_thins (none p List.mem_cons_self) hx
    · have rest : x.url.Thins w.url := ih none' hw
      exact (apply_thins (none p List.mem_cons_self) hx).trans rest

/-! ## Lengths -/

/-- At every level: a blocked URL is empty, and any other is the URL or shorter. -/
theorem resolve_length_le {cap room : Nat} {v : Visit} (h : resolve rules cap room url = .ok v) :
    v.url.length ≤ url.length := by
  cases hb : v.blocked with
  | false => exact (resolve_sparing rules cap room url v h hb).1.length_le
  | true =>
    rw [resolve_blocked_url h hb]
    exact Nat.zero_le _

/-- Cleaning invents nothing, whatever the cap and the depth to start from. The URL that it returns has no more
characters than the one it was given. If no provider has redirections, the given URL holds all its characters in this
order, upper and lower case of ASCII letters apart. -/
theorem clean_invents_nothing (s : Sanitizer) (rules : Ruleset) (url : Text) (depth : Int) {left : Text}
    (h : s.clean url rules depth = .ok left) :
    left.length ≤ url.length ∧
      ((∀ p ∈ rules.providers, p.redirections = []) →
        (left.map Char.toLower).Sublist (url.map Char.toLower)) := by
  obtain ⟨v, hv, h⟩ := except_bind_ok.mp h
  cases h
  refine ⟨resolve_length_le hv, fun none => ?_⟩
  obtain ⟨n, _, hvisit⟩ := resolve_ok.mp hv
  exact visit_thins none hvisit

/-- A shop that adds a campaign and a session to its links. -/
def sessions : Ruleset := ⟨[
  { Provider.concerning "shop" "(?i)shop\\." with
    rules := [.ofSource "^utm_"], rawRules := [.ofSource ";s=[0-9]+"] }]⟩

/-- The scheme comes to lower case, and a line end, a campaign, a session, an empty fragment and what is left of the
ends go. A target that is found in a link is shorter than the link. -/
theorem sessions_thinned :
    let url := "HTTPS://Shop.example/a;s=17/\n?utm_a=1&b=%2F&&utm_c#".toList
    let link := "http://shop.example/?to=http%3A%2F%2Fshop.example%2F%3Fto%3Dhttp%3A%2F%2Fp%2F%25C3%25A9%252F".toList
    standard.clean url sessions 0 = .ok "https://Shop.example/a/?b=%2F".toList ∧
      (∀ p ∈ sessions.providers, p.redirections = []) ∧
      ("https://Shop.example/a/?b=%2F".toList.map Char.toLower).Sublist (url.map Char.toLower) ∧
      standard.clean link relay 0 = .ok "http://p/é".toList ∧ "http://p/é".toList.length ≤ link.length := by
  intro url link
  have run : standard.clean url sessions 0 = .ok "https://Shop.example/a/?b=%2F".toList := by decide +kernel
  have plain : ∀ p ∈ sessions.providers, p.redirections = [] := by decide +kernel
  have relayed : standard.clean link relay 0 = .ok "http://p/é".toList := by decide +kernel
  exact ⟨run, plain, (clean_invents_nothing standard sessions url 0 run).2 plain, relayed,
    (clean_invents_nothing standard relay link 0 relayed).1⟩

end Untrack.Sanitizer
