/-
  Untrack.Proofs.Sanitizer.Cycles — redirections that lead on and on. From a URL of a set in which each leads to one of
  the set again (`Ruleset.LeadsBack`), cleaning gets no further than the levels go, whatever their number, and fails
  with the cap (`cycle_exceeds_cap`).

  Only the first step of each call matters: the first provider that the URL concerns, and of its redirections the first
  that finds a target. Everything else would come after the call for that target, and that call fails.
-/

import Mathlib.Data.Set.Defs
import Untrack.Proofs.Sanitizer.Redirections

namespace Untrack

/-- Each URL of the set concerns first a provider that lets it pass, and of its redirections the first that finds a
target in the URL finds one that is in the set. (If one before it matches, then with a group that takes no part.) -/
def Ruleset.LeadsBack (rules : Ruleset) (S : Set Text) : Prop :=
  ∀ u ∈ S, ∃ p, rules.providers.find? (·.concerns u) = some p ∧ p.complete = false ∧
    ∃ front r back t, p.redirections = front ++ r :: back ∧ (∀ q ∈ front, Sanitizer.target? q u = .ok none) ∧
      Sanitizer.target? r u = .ok (some t) ∧ t ∈ S

namespace Sanitizer

variable {follow : Text → Except CleanFault Visit} {rules : Ruleset} {p : Provider} {url : Text} {f : CleanFault}

/-! ## The first to fail -/

theorem apply_error_of_followAll (passes : p.complete = false)
    (fails : followAll follow url p.redirections ⟨url, [p.name], false⟩ = .error f) :
    apply follow p url = .error f := by
  unfold apply
  rw [passes, fails]
  rfl

/-- If the first provider that a URL concerns fails, none of the others can help. -/
theorem visit_error_of_first {ps : List Provider} (first : ps.find? (·.concerns url) = some p)
    (fails : apply follow p url = .error f) : visit follow ps url = .error f := by
  induction ps with
  | nil => cases first
  | cons q ps ih =>
    rw [List.find?_cons] at first
    rw [visit]
    cases hc : q.concerns url with
    | false =>
      rw [hc] at first
      exact ih first
    | true =>
      rw [hc] at first
      cases first
      rw [fails]
      rfl

/-! ## Every level -/

/-- However many levels are left, they run out at a URL of the set: induction on their number. -/
theorem resolve_of_leadsBack {S : Set Text} (back : rules.LeadsBack S) (cap room : Nat) (hu : url ∈ S) :
    ∃ v ∈ S, resolve rules cap room url = .error (.redirectLoop v cap) := by
  induction room generalizing url with
  | zero => exact ⟨url, hu, rfl⟩
  | succ room ih =>
    obtain ⟨p, first, passes, before, r, after, t, cut, none, ht, member⟩ := back url hu
    obtain ⟨v, hv, deeper⟩ := ih member
    have stops : ∀ x, resolve rules cap room t = .ok x → x.blocked = true := fun x hx => by
      rw [deeper] at hx
      cases hx
    have way : ∀ q ∈ before, GivesWay (resolve rules cap room) url q := fun q hq => Or.inl (none q hq)
    obtain ⟨_, whole⟩ := followAll_of_target (v := ⟨url, [p.name], false⟩) way rfl ht stops after
    rw [deeper] at whole
    refine ⟨v, hv, visit_error_of_first first (apply_error_of_followAll passes ?_)⟩
    rw [cut]
    exact whole

/-- Redirections that lead back into a set of URLs are found out: cleaning any URL of the set, under any cap, fails as
there are more levels than the cap, and tells the cap. -/
theorem cycle_exceeds_cap (s : Sanitizer) {rules : Ruleset} {S : Set Text} (back : rules.LeadsBack S) :
    ∀ u ∈ S, ∃ v ∈ S, s.sanitize u rules = .error (.redirectLoop v s.cap) := by
  intro u hu
  obtain ⟨v, hv, fails⟩ := resolve_of_leadsBack back s.cap (s.cap + 1) hu
  refine ⟨v, hv, ?_⟩
  unfold sanitize
  rw [fails]
  rfl

def gate : Provider :=
  { Provider.concerning "gate" "^https://gate\\." with
    redirections := [⟨"gate#0".toList, .ofSource "from=(.*)"⟩, ⟨"gate#1".toList, .ofSource "to=(.*)"⟩] }

/-- A roundabout leads from each of its URLs to that URL. -/
def roundabout : Provider :=
  { Provider.concerning "round" "^https://round\\." with redirections := [⟨"round#0".toList, .ofSource "^(.*)$"⟩] }

def gateAndRoundabout : Ruleset :=
  ⟨[{ Provider.concerning "ads" "ads\\." with complete := true }, gate, roundabout]⟩

/-- Through the gate, and then round and round. -/
theorem roundabout_exceeds_cap :
    let entered := "https://gate.example/?to=https%3A%2F%2Fround.example%2F%3F".toList
    let round := "https://round.example/?".toList
    let S : Set Text := fun u => u = entered ∨ u = round
    gateAndRoundabout.LeadsBack S ∧ S entered ∧
      ∃ v, S v ∧ standard.sanitize entered gateAndRoundabout = .error (.redirectLoop v 5) := by
  intro entered round S
  have atGate : gateAndRoundabout.providers.find? (·.concerns entered) = some gate := by decide +kernel
  have atRound : gateAndRoundabout.providers.find? (·.concerns round) = some roundabout := by decide +kernel
  have out : ∀ q ∈ gate.redirections.take 1, target? q entered = .ok none := by decide +kernel
  have onward : target? ⟨"gate#1".toList, .ofSource "to=(.*)"⟩ entered = .ok (some round) := by decide +kernel
  have again : target? ⟨"round#0".toList, .ofSource "^(.*)$"⟩ round = .ok (some round) := by decide +kernel
  have back : gateAndRoundabout.LeadsBack S := by
    rintro u (rfl | rfl)
    · exact ⟨gate, atGate, rfl, gate.redirections.take 1, _, [], round, rfl, out, onward, Or.inr rfl⟩
    · exact ⟨roundabout, atRound, rfl, [], _, [], round, rfl, List.forall_mem_nil _, again, Or.inr rfl⟩
  exact ⟨back, Or.inl rfl, cycle_exceeds_cap standard back entered (Or.inl rfl)⟩

end Sanitizer
end Untrack
