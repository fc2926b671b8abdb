/-
  Untrack.Proofs.Command.Lines — what becomes of the links of a message, and what the command prints of them
  (`links_change_to_links`). A link that was changed is one link again, unless its run strays: the last target that a
  provider found in it is no link once decoded (`a_decoded_target_is_no_link`), or raw rules leave none. The command
  prints a line for each link. Texts as they were given and faults have no line ends in them, so a line more is printed
  only for a line end in a URL that was changed (`count_lines`), and none is if these are links.
-/

import Untrack.Proofs.Command.Ending
import Untrack.Proofs.Message.Changed
import Untrack.Proofs.Message.Extraction
import Untrack.Proofs.Message.Reports
import Untrack.Proofs.Sanitizer.Levels

namespace Untrack

instance decidableEqLinkResult : DecidableEq LinkResult := fun a b =>
  decidable_of_iff (a.link = b.link ∧ a.result = b.result) (by cases a; cases b; simp)

namespace Command

open Message (links)
open Sanitizer (campaigns campaigns_plain relay Strays)

variable {s : Sanitizer} {rules : Ruleset} {link : Text}

/-! ## One line for each link -/

/-- A URL that does not count as cleaned has no line end, as it is empty or the link, or the link trimmed. -/
theorem newline_not_mem_uncleaned {c : Sanitizer.Result} (h : s.sanitize link rules = .ok c) (hl : links link = [link])
    (hc : c.outcome ≠ .cleaned) : '\n' ∉ c.url := by
  obtain ⟨v, hv, rfl⟩ := Sanitizer.sanitize_ok h
  obtain ⟨n, _, hvisit⟩ := Sanitizer.resolve_ok.mp hv
  have whole := Message.newline_not_mem hl
  cases hb : v.blocked with
  | true => simp
  | false =>
    simp only [Bool.false_eq_true, if_false]
    by_cases noted : v.matched = []
    · rw [Sanitizer.visit_of_matched_nil hvisit noted]
      exact fun hm => whole ((Sanitizer.trim_sublist link).subset hm)
    by_cases same : v.url = link
    · rwa [same]
    · exact absurd (Sanitizer.outcomeOf_eq_cleaned.mpr ⟨hb, noted, same⟩) hc

/-- The line for a link ends once, and once more for each line end in the URL that it was changed to. -/
theorem count_line {r : LinkResult} (same : r.link = link) (cleaned : r.result = s.sanitize link rules)
    (told : ∀ f, r.result = .error f → f.isOfUrl = true) (hl : links link = [link]) :
    (line r).toList.count '\n' = 1 + (r.changed?.toList.map (·.count '\n')).sum := by
  have whole : link.count '\n' = 0 := List.count_eq_zero.mpr (Message.newline_not_mem hl)
  obtain ⟨_, result⟩ := r
  dsimp only at same cleaned told
  subst same
  cases result with
  | error f =>
    have report : f.report.toList.count '\n' = 0 := by
      refine List.count_eq_zero.mpr ?_
      rcases except_bind_error.mp cleaned.symm with h | ⟨_, _, h⟩
      · exact (Sanitizer.foreseen_of_isOfUrl h (told f rfl)).report_one_line
      · cases h
    simp [line, LinkResult.changed?, String.toList_append, String.toList_ofList, List.count_append, whole, report]
  | ok c =>
    cases outcome : c.outcome with
    | blocked =>
      simp [line, LinkResult.changed?, Sanitizer.Result.blocked, Sanitizer.Result.changed, outcome,
        String.toList_append, String.toList_ofList, List.count_append, whole]
    | unchanged =>
      have url : c.url.count '\n' = 0 :=
        List.count_eq_zero.mpr (newline_not_mem_uncleaned cleaned.symm hl (by rw [outcome]; exact nofun))
      simp [line, LinkResult.changed?, Sanitizer.Result.blocked, Sanitizer.Result.changed, outcome,
        String.toList_append, String.toList_ofList, List.count_append, url]
    | cleaned =>
      simp [line, LinkResult.changed?, Sanitizer.Result.blocked, Sanitizer.Result.changed, outcome,
        String.toList_append, String.toList_ofList, List.count_append, Nat.add_comm]

theorem count_lines {message : Text} {results : List LinkResult}
    (h : Message.cleanLinks s rules (links message) = .ok results) :
    (lines results).toList.count '\n' =
      (links message).length + ((Message.changed results).map (·.count '\n')).sum := by
  have single : ∀ link ∈ links message, links link = [link] := fun _ => Message.links_of_mem
  have each := Message.cleanLinks_ok h
  clear h
  generalize links message = found at single each
  rw [lines, String.toList_join, List.flatMap_map, List.count_flatMap]
  induction each with
  | nil => rfl
  | @cons link r found results hr _ ih =>
    obtain ⟨one, rest⟩ := List.forall_mem_cons.mp single
    have here := count_line hr.1 hr.2.1 hr.2.2 one
    have those := ih rest
    have split : Message.changed (r :: results) = r.changed?.toList ++ Message.changed results := by
      unfold Message.changed
      rw [List.filterMap_cons]
      cases r.changed? <;> rfl
    rw [split, List.map_cons, List.sum_cons, Function.comp_apply, here, those, List.map_append, List.sum_append,
      List.length_cons]
    omega

/-- As many lines as links are printed exactly if no URL that was changed holds a line end. -/
theorem count_lines_eq_iff {message : Text} {results : List LinkResult}
    (h : Message.cleanLinks s rules (links message) = .ok results) :
    (lines results).toList.count '\n' = (links message).length ↔ ∀ u ∈ Message.changed results, '\n' ∉ u := by
  rw [count_lines h, Nat.add_eq_left, List.sum_eq_zero_iff]
  simp [List.count_eq_zero]

/-! ## The command -/

/-- A message that was cleaned was cleaned with some rules. -/
theorem cleanLinks_of_cleanMessage {st : Store} {message : Text} {state : State} {results : List LinkResult}
    (h : (st.cleanMessage s message state).1 = .ok results) :
    ∃ rules, Message.cleanLinks s rules (links message) = .ok results := by
  rw [Store.cleanMessage_outcome] at h
  split at h
  · rename_i none
    cases h
    exact ⟨⟨[]⟩, by rw [none]; rfl⟩
  · obtain ⟨e, _, cleaned⟩ := except_bind_ok.mp h
    exact ⟨e.rules, mapError_ok.mp cleaned⟩

/-- What the command prints when nothing went wrong. -/
theorem clean_ok {st : Store} {refresh : Bool} {texts : List Text} {state : State} {report : Report}
    (h : (clean st s refresh texts state).1 = .ok report) (success : report.code = 0) :
    ∃ told between results, refreshFirst st.refresher refresh state.world = (.ok told, between) ∧
      (st.cleanMessage s (['\n'].intercalate texts) { state with world := between }).1 = .ok results ∧
      report.output = told ++ lines results := by
  rw [clean_run] at h
  split at h
  · rw [failed_run] at h
    split at h <;> cases h
    cases success
  rename_i told between refreshed
  split at h
  · rw [failed_run] at h
    split at h <;> cases h
    cases success
  · rename_i results _ cleaned
    cases h
    exact ⟨told, between, results, refreshed, by rw [cleaned], rfl⟩

/-- A link that was changed is one link again, unless the run strays on its way; with providers that only filter the
query it always is. After what it tells of a refresh, the command prints as many lines as there are links exactly if no
URL that a link was changed to has a line end. -/
theorem links_change_to_links (s : Sanitizer) :
    (∀ rules message results, Message.cleanLinks s rules (links message) = .ok results →
      (∀ u ∈ Message.changed results, links u = [u] ∨
        ∃ link ∈ links message, s.clean link rules 0 = .ok u ∧
          Strays rules s.cap (s.cap + 1) rules.providers link) ∧
      ((∀ p ∈ rules.providers, p.Plain) → ∀ u ∈ Message.changed results, links u = [u]) ∧
      ((lines results).toList.count '\n' = (links message).length ↔ ∀ u ∈ Message.changed results, '\n' ∉ u)) ∧
    ∀ st arguments refresh texts state report, Request.ofArguments arguments = .ok (.clean refresh texts) →
      (Command.run st s arguments state).1 = .ok report → report.code = 0 →
        ∃ told between results, refreshFirst st.refresher refresh state.world = (.ok told, between) ∧
          (st.cleanMessage s (['\n'].intercalate texts) { state with world := between }).1 = .ok results ∧
          report.output = told ++ lines results ∧
          ((lines results).toList.count '\n' = (texts.flatMap links).length ↔
            ∀ u ∈ Message.changed results, '\n' ∉ u) := by
  refine ⟨fun rules message results h => ?_, fun st arguments refresh texts state report asked h success => ?_⟩
  · refine ⟨fun u => Message.changed_links h, fun plain u hu => ?_, count_lines_eq_iff h⟩
    refine (Message.changed_links h hu).resolve_right ?_
    rintro ⟨_, _, _, strays⟩
    exact Sanitizer.not_strays_of_plain plain strays
  · rw [Command.run, asked] at h
    obtain ⟨told, between, results, refreshed, cleaned, output⟩ := clean_ok h success
    obtain ⟨rules, hr⟩ := cleanLinks_of_cleanMessage cleaned
    rw [← Message.links_intercalate]
    exact ⟨told, between, results, refreshed, cleaned, output, count_lines_eq_iff hr⟩

/-- A link of a shop to a page whose name has a space. -/
def spaced : Text := "http://shop.example/?to=http%3A%2F%2Fpage.example%2Fa%20b".toList

theorem relayed_to_page : Message.cleanLinks .standard relay (links spaced) =
    .ok [⟨spaced, .ok ⟨.cleaned, spaced, "http://page.example/a b".toList, ["shop".toList]⟩⟩] := by
  decide +kernel

/-- A cache just written of rules that concern nobody. -/
def idle : State := ⟨{ World.start 0 .silent with shelf := ⟨.file Store.ruleless 0, [], []⟩ }, .fresh⟩

/-- A shop leads to a page whose name has a space, what remains of a link without its campaign is a link, and two links
among words are printed on two lines. -/
theorem page_with_a_space :
    let campaign := "see http://shop.example/?utm_id=1".toList
    let texts := ["see http://a/".toList, "https://b".toList]
    (∃ results, Message.cleanLinks .standard relay (links spaced) = .ok results ∧
      Message.changed results = ["http://page.example/a b".toList] ∧ Strays relay 5 6 relay.providers spaced) ∧
    (∃ results, Message.cleanLinks .standard campaigns (links campaign) = .ok results ∧
      (∀ p ∈ campaigns.providers, p.Plain) ∧ Message.changed results = ["http://shop.example".toList] ∧
      links "http://shop.example".toList = ["http://shop.example".toList]) ∧
    Request.ofArguments texts = .ok (.clean false texts) ∧
      ∃ results report, (Store.dated.cleanMessage .standard (['\n'].intercalate texts) idle).1 = .ok results ∧
        (Command.run .dated .standard texts idle).1 = .ok report ∧ report.code = 0 ∧
        report.output = lines results ∧ (lines results).toList.count '\n' = 2 := by
  intro campaign texts
  have first := (links_change_to_links .standard).1
  have thinned : Message.cleanLinks .standard campaigns (links campaign) =
      .ok [⟨"http://shop.example/?utm_id=1".toList, .ok ⟨.cleaned, "http://shop.example/?utm_id=1".toList,
        "http://shop.example".toList, ["campaign".toList]⟩⟩] := by decide +kernel
  have asked : Request.ofArguments texts = .ok (.clean false texts) := by decide
  have printed : (Command.run .dated .standard texts idle).1 = .ok ⟨0, "http://a\nhttps://b\n", ""⟩ := by decide +kernel
  refine ⟨⟨_, relayed_to_page, by decide, ?_⟩, ⟨_, thinned, campaigns_plain, by decide, ?_⟩, asked, ?_⟩
  · -- the page is no link, so the theorem has the run stray
    have page := (first _ _ _ relayed_to_page).1 "http://page.example/a b".toList (by decide)
    obtain ⟨link, hl, _, strays⟩ := page.resolve_left (by decide +kernel)
    rw [List.mem_singleton.mp hl] at strays
    exact strays
  · exact (first _ _ _ thinned).2.1 campaigns_plain "http://shop.example".toList (by decide)
  · obtain ⟨told, between, results, refreshed, cleaned, output, _⟩ :=
      (links_change_to_links .standard).2 .dated texts false texts idle _ asked printed rfl
    cases refreshed
    rw [String.empty_append] at output
    refine ⟨results, _, cleaned, printed, rfl, output, ?_⟩
    rw [← output]
    decide +kernel

/-- Once decoded, a target may have a space. -/
theorem a_decoded_target_is_no_link :
    ¬ ∀ (s : Sanitizer) (rules : Ruleset) (message : Text) (results : List LinkResult),
      Message.cleanLinks s rules (links message) = .ok results →
        ∀ u ∈ Message.changed results, links u = [u] := by
  intro same
  have one := same .standard relay _ _ relayed_to_page "http://page.example/a b".toList (by decide)
  exact absurd one (by decide +kernel)

end Command
end Untrack
