/-
  Untrack.Proofs.Message.Changed — when a link that cleaning changed is a link again. Filtering and trimming see to it
  (`Message.links_clean`, `Message.links_trim`), so there are two ways in which it may not be (`Strays`): the last
  target that a provider finds is no link once it is decoded, or raw rules take something away that a link needs.
  Otherwise the result is one link whatever the level, as long as a provider was noted (`resolve_links`); and nothing
  strays where providers only filter (`not_strays_of_plain`).

  A target that concerns nobody may lose a slash that it needs. The provider that found it then fails, as there is no
  host, so below a provider it is enough that what has a host is a link (`Message.LinkIfHosted`).
-/

import Untrack.Proofs.Message.Links
import Untrack.Proofs.Sanitizer.Filtering
import Untrack.Proofs.Sanitizer.Spared

namespace Untrack

namespace Sanitizer

open Message (links)

/-- With so many levels left, and these providers to come, the run leaves the links behind. -/
inductive Strays (rules : Ruleset) (cap : Nat) : (room : Nat) → List Provider → (url : Text) → Prop
  | passedOver {room : Nat} {p : Provider} {ps : List Provider} {url : Text} : p.concerns url = false →
      Strays rules cap (room + 1) ps url → Strays rules cap (room + 1) (p :: ps) url
  /-- The last target that the provider finds is not one link. -/
  | target {room : Nat} {p : Provider} {ps : List Provider} {url target : Text} : p.concerns url = true →
      p.complete = false → (targets p.redirections url).getLast? = some target → links target ≠ [target] →
      Strays rules cap (room + 1) (p :: ps) url
  /-- The last target is one link, and the run strays on the level below. -/
  | deeper {room : Nat} {p : Provider} {ps : List Provider} {url target : Text} : p.concerns url = true →
      p.complete = false → (targets p.redirections url).getLast? = some target → links target = [target] →
      Strays rules cap room rules.providers target → Strays rules cap (room + 1) (p :: ps) url
  /-- The provider's raw rules take something out of one link, and what they leave, trimmed, is not one. -/
  | raw {room : Nat} {p : Provider} {ps : List Provider} {url u : Text} {x : Visit} : p.concerns url = true →
      p.complete = false → followAll (resolve rules cap room) url p.redirections ⟨url, [p.name], false⟩ = .ok x →
      x.blocked = false → cleanQuery p x.url = .ok u → links u = [u] → deleteRaw p u ≠ u →
      links (trim (deleteRaw p u)) ≠ [trim (deleteRaw p u)] → Strays rules cap (room + 1) (p :: ps) url
  /-- The provider leaves one link, and the run strays at one of those after it. -/
  | later {room : Nat} {p : Provider} {ps : List Provider} {url : Text} {x : Visit} : p.concerns url = true →
      apply (resolve rules cap room) p url = .ok x → x.blocked = false → links x.url = [x.url] →
      Strays rules cap (room + 1) ps x.url → Strays rules cap (room + 1) (p :: ps) url

variable {rules : Ruleset} {cap room : Nat} {p : Provider} {ps : List Provider} {url : Text} {v : Visit}

/-- The level below keeps to links, or to what is one if it has a host. -/
def KeepsLinks (rules : Ruleset) (cap room : Nat) : Prop :=
  ∀ url v, resolve rules cap room url = .ok v → v.blocked = false → links url = [url] →
    Strays rules cap room rules.providers url ∨ Message.LinkIfHosted v.url

/-- A provider that concerns a link leaves one, also if it is trimmed. -/
theorem apply_links (keeps : KeepsLinks rules cap room) (ps : List Provider) (hc : p.concerns url = true)
    (h : apply (resolve rules cap room) p url = .ok v) (hb : v.blocked = false) (hl : links url = [url]) :
    Strays rules cap (room + 1) (p :: ps) url ∨ links v.url = [v.url] ∧ links (trim v.url) = [trim v.url] := by
  obtain ⟨passes, x, u, hx, hxb, hu, rfl⟩ := apply_ok_unblocked h hb
  have found : Strays rules cap (room + 1) (p :: ps) url ∨ Message.LinkIfHosted x.url := by
    rcases followAll_cases hx hxb with ⟨rfl, _⟩ | ⟨_, target, y, _, last, hy, hyb, same⟩
    · exact Or.inr (Message.linkIfHosted hl)
    by_cases ht : links target = [target]
    · rw [same]
      exact (keeps target y hy hyb ht).imp_left (.deeper hc passes last ht)
    · exact Or.inl (.target hc passes last ht)
  rcases found with strays | hosted
  · exact Or.inl strays
  have filtered : links u = [u] := Message.links_clean hosted (mapError_ok.mp hu)
  have host : Url.HasHost u := Query.hasHost_of_clean (mapError_ok.mp hu)
  by_cases same : deleteRaw p u = u
  · right
    dsimp only
    rw [same]
    exact ⟨filtered, Message.links_trim host filtered⟩
  by_cases trimmed : links (trim (deleteRaw p u)) = [trim (deleteRaw p u)]
  · right
    have whole : ∀ c ∈ deleteRaw p u, Message.isSeparator c = false := fun c hc =>
      (Message.links_eq_self_iff.mp filtered).1 c ((deleteAll_sublist p.rawRules u).subset hc)
    have link := Message.isLink_of_prefix (Message.links_eq_self_iff.mp trimmed).2 (trim_isPrefix _)
    exact ⟨Message.links_eq_self_iff.mpr ⟨whole, link⟩, trimmed⟩
  · exact Or.inl (.raw hc passes hx hxb hu filtered same trimmed)

/-- From a link on, the providers leave a link if one of them is noted, or if nothing is wrong with trimming it. -/
theorem visit_links (keeps : KeepsLinks rules cap room) (h : visit (resolve rules cap room) ps url = .ok v)
    (hb : v.blocked = false) (hl : links url = [url]) :
    Strays rules cap (room + 1) ps url ∨
      Message.LinkIfHosted v.url ∧
        (v.matched ≠ [] ∨ links (trim url) = [trim url] → links v.url = [v.url]) := by
  induction ps generalizing url v with
  | nil =>
    rw [visit_nil_ok.mp h]
    exact Or.inr ⟨Message.linkIfHosted_trim hl, fun ok => ok.resolve_left fun noted => noted rfl⟩
  | cons p ps ih =>
    rcases visit_cons_ok_unblocked h hb with ⟨hc, h⟩ | ⟨hc, x, w, hx, hxb, hw, hwb, rfl⟩
    · exact (ih h hb hl).imp_left (.passedOver hc)
    rcases apply_links keeps ps hc hx hxb hl with strays | ⟨one, trimmed⟩
    · exact Or.inl strays
    rcases ih hw hwb one with strays | ⟨hosted, rest⟩
    · exact Or.inl (.later hc hx hxb one strays)
    · exact Or.inr ⟨hosted, fun _ => rest (Or.inr trimmed)⟩

/-- At every level: induction on the levels left. -/
theorem resolve_keepsLinks (rules : Ruleset) (cap room : Nat) : KeepsLinks rules cap room := by
  induction room with
  | zero => exact fun _ _ h => nomatch h
  | succ room ih => exact fun url v h hb hl => (visit_links ih h hb hl).imp_right And.left

/-- What a link that concerns a provider is cleaned to is one link, unless the run strays. -/
theorem resolve_links (h : resolve rules cap room url = .ok v) (hb : v.blocked = false) (noted : v.matched ≠ [])
    (hl : links url = [url]) : Strays rules cap room rules.providers url ∨ links v.url = [v.url] := by
  obtain ⟨n, rfl, h⟩ := resolve_ok.mp h
  exact (visit_links (resolve_keepsLinks rules cap n) h hb hl).imp_right fun ok => ok.2 (Or.inl noted)

/-- Providers that only filter the query do not stray. -/
theorem not_strays_of_plain (hps : ∀ p ∈ ps, p.Plain) : ¬ Strays rules cap room ps url := by
  intro h
  induction h with
  | passedOver _ _ ih => exact ih fun p hp => hps p (List.mem_cons_of_mem _ hp)
  | target _ _ last _ =>
    rw [(hps _ List.mem_cons_self).redirections] at last
    cases last
  | deeper _ _ last _ _ _ =>
    rw [(hps _ List.mem_cons_self).redirections] at last
    cases last
  | raw _ _ _ _ _ _ deleted _ => exact deleted (by rw [deleteRaw, (hps _ List.mem_cons_self).rawRules]; rfl)
  | later _ _ _ _ _ ih => exact ih fun p hp => hps p (List.mem_cons_of_mem _ hp)

end Sanitizer

namespace Message

variable {s : Sanitizer} {rules : Ruleset} {found : List Text} {results : List LinkResult}

/-- Each link has its result, and in their order. -/
theorem cleanLinks_ok (h : cleanLinks s rules found = .ok results) :
    List.Forall₂ (fun link r => r.link = link ∧ r.result = s.sanitize link rules ∧
      ∀ f, r.result = .error f → f.isOfUrl = true) found results := by
  refine (except_mapM_ok.mp h).imp fun link r hr => ?_
  unfold cleanLink at hr
  rcases hs : s.sanitize link rules with f | c <;> rw [hs] at hr <;> dsimp only at hr
  · split at hr <;> cases hr
    refine ⟨rfl, rfl, fun g hg => ?_⟩
    cases hg
    assumption
  · cases hr
    exact ⟨rfl, rfl, fun f hf => nomatch hf⟩

theorem of_mem_changed (h : cleanLinks s rules found = .ok results) {u : Text} (hu : u ∈ changed results) :
    ∃ link ∈ found, ∃ r, s.sanitize link rules = .ok r ∧ r.outcome = .cleaned ∧ r.url = u := by
  obtain ⟨r, hr, changed⟩ := List.mem_filterMap.mp hu
  obtain ⟨link, hlink, _, same, _⟩ := exists_left_of_forall₂ (cleanLinks_ok h) r hr
  unfold LinkResult.changed? at changed
  split at changed
  · split at changed <;> cases changed
    rw [‹r.result = _›] at same
    exact ⟨link, hlink, _, same.symm, eq_of_beq ‹Sanitizer.Result.changed _ = true›, rfl⟩
  · cases changed

/-- What a link of a message was changed to is one link, unless the run strays. -/
theorem changed_links {message : Text} (h : cleanLinks s rules (links message) = .ok results) {u : Text}
    (hu : u ∈ changed results) :
    links u = [u] ∨ ∃ link ∈ links message, s.clean link rules 0 = .ok u ∧
      Sanitizer.Strays rules s.cap (s.cap + 1) rules.providers link := by
  obtain ⟨link, hlink, r, hr, cleaned, rfl⟩ := of_mem_changed h hu
  have clean : s.clean link rules 0 = .ok r.url := by rw [Sanitizer.clean_eq_sanitize, hr]; rfl
  obtain ⟨v, hv, rfl⟩ := Sanitizer.sanitize_ok hr
  obtain ⟨hb, noted, _⟩ := Sanitizer.outcomeOf_eq_cleaned.mp cleaned
  simp only [hb, Bool.false_eq_true, if_false] at clean ⊢
  rcases Sanitizer.resolve_links hv hb noted (links_of_mem hlink) with strays | one
  · exact Or.inr ⟨link, hlink, clean, strays⟩
  · exact Or.inl one

end Message
end Untrack
