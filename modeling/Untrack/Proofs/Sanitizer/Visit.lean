/-
  Untrack.Proofs.Sanitizer.Visit — the ways in which cleaning a URL ends. One lemma for each part of it says all that
  a result can come from: `followAll_cons_ok` for a redirection, `apply_ok` for a provider that concerns the URL,
  `visit_cons_ok` for the next provider, `resolve_ok` for a level. Every property of results is an induction over
  them.
-/

import Untrack.Proofs.Except
import Untrack.Sanitizer

namespace Untrack.Sanitizer

variable {follow : Text → Except CleanFault Visit}

theorem followAll_nil_ok {source : Text} {v w : Visit} : followAll follow source [] v = .ok w ↔ w = v := by
  simp [followAll, eq_comm]

/-- Following a redirection: it is not in the URL, or its target is blocked, or the others follow. -/
theorem followAll_cons_ok {source : Text} {r : Redirection} {rs : List Redirection} {v w : Visit} :
    followAll follow source (r :: rs) v = .ok w ↔
      (target? r source = .ok none ∧ followAll follow source rs v = .ok w) ∨
      ∃ target x, target? r source = .ok (some target) ∧ follow target = .ok x ∧
        if x.blocked then w = { x with matched := v.matched ++ x.matched }
        else followAll follow source rs { x with matched := v.matched ++ x.matched } = .ok w := by
  rw [followAll, except_bind_ok]
  constructor
  · rintro ⟨t, ht, h⟩
    cases t with
    | none => exact Or.inl ⟨ht, h⟩
    | some target =>
      obtain ⟨x, hx, h⟩ := except_bind_ok.mp h
      refine Or.inr ⟨target, x, ht, hx, ?_⟩
      cases hb : x.blocked <;> simp_all [pure, Except.pure]
  · rintro (⟨ht, h⟩ | ⟨target, x, ht, hx, h⟩)
    · exact ⟨none, ht, h⟩
    · refine ⟨some target, ht, except_bind_ok.mpr ⟨x, hx, ?_⟩⟩
      cases hb : x.blocked <;> simp_all [pure, Except.pure]

/-- The targets that redirections find in a URL, in their order. -/
def targets (rs : List Redirection) (source : Text) : List Text :=
  rs.filterMap fun r => (target? r source).toOption.join

theorem targets_cons_of_none {source : Text} {r : Redirection} (h : target? r source = .ok none)
    (rs : List Redirection) : targets (r :: rs) source = targets rs source := by
  simp [targets, h, Except.toOption]

theorem targets_cons_of_some {source target : Text} {r : Redirection} (h : target? r source = .ok (some target))
    (rs : List Redirection) : targets (r :: rs) source = target :: targets rs source := by
  simp [targets, h, Except.toOption]

theorem targets_of_none {source : Text} {rs : List Redirection} (h : ∀ r ∈ rs, target? r source = .ok none) :
    targets rs source = [] := by
  induction rs with
  | nil => rfl
  | cons r rs ih =>
    obtain ⟨first, rest⟩ := List.forall_mem_cons.mp h
    rw [targets_cons_of_none first, ih rest]

theorem length_targets_le (rs : List Redirection) (source : Text) : (targets rs source).length ≤ rs.length :=
  List.length_filterMap_le _ _

/-- A provider blocks the URL, or one of its redirections leads to a URL that is blocked, or what is left of the URL
loses parameters and what raw rules match. -/
theorem apply_ok {p : Provider} {url : Text} {v : Visit} :
    apply follow p url = .ok v ↔
      (p.complete = true ∧ v = ⟨[], [p.name], true⟩) ∨
      (p.complete = false ∧ ∃ x, followAll follow url p.redirections ⟨url, [p.name], false⟩ = .ok x ∧
        ((x.blocked = true ∧ v = { x with url := [] }) ∨
          (x.blocked = false ∧ ∃ u, cleanQuery p x.url = .ok u ∧ v = { x with url := deleteRaw p u }))) := by
  unfold apply
  cases hc : p.complete with
  | true => simp [pure, Except.pure, @eq_comm _ v]
  | false =>
    simp only [Bool.false_eq_true, if_false, false_and, false_or, true_and]
    rw [except_bind_ok]
    refine exists_congr fun x => and_congr_right fun _ => ?_
    cases hb : x.blocked with
    | true => simp [pure, Except.pure, @eq_comm _ v]
    | false => simp [pure, Except.pure, except_bind_ok, @eq_comm _ v]

/-- If nothing is blocked, the provider lets the URL pass, and so it goes through all that is done to it. -/
theorem apply_ok_unblocked {p : Provider} {url : Text} {v : Visit} (h : apply follow p url = .ok v)
    (hb : v.blocked = false) : p.complete = false ∧
      ∃ x u, followAll follow url p.redirections ⟨url, [p.name], false⟩ = .ok x ∧ x.blocked = false ∧
        cleanQuery p x.url = .ok u ∧ v = { x with url := deleteRaw p u } := by
  rcases apply_ok.mp h with ⟨_, rfl⟩ | ⟨passes, x, hx, ⟨hxb, rfl⟩ | ⟨hxb, u, hu, rfl⟩⟩
  · cases hb
  · rw [hxb] at hb
    cases hb
  · exact ⟨passes, x, u, hx, hxb, hu, rfl⟩

theorem visit_nil_ok {url : Text} {v : Visit} : visit follow [] url = .ok v ↔ v = ⟨trim url, [], false⟩ := by
  simp [visit, eq_comm]

/-- The next provider does not concern the URL, or blocks it, or hands it on to the others. -/
theorem visit_cons_ok {p : Provider} {ps : List Provider} {url : Text} {v : Visit} :
    visit follow (p :: ps) url = .ok v ↔
      (p.concerns url = false ∧ visit follow ps url = .ok v) ∨
      (p.concerns url = true ∧ ∃ x, apply follow p url = .ok x ∧
        ((x.blocked = true ∧ v = x) ∨
          (x.blocked = false ∧ ∃ w, visit follow ps x.url = .ok w ∧
            v = { w with matched := x.matched ++ w.matched }))) := by
  rw [visit]
  cases hc : p.concerns url with
  | false => simp
  | true =>
    simp only [Bool.not_true, Bool.false_eq_true, if_false, Bool.true_eq_false, false_and, false_or, true_and]
    rw [except_bind_ok]
    refine exists_congr fun x => and_congr_right fun _ => ?_
    cases hb : x.blocked with
    | true => simp [pure, Except.pure, @eq_comm _ v]
    | false => simp [pure, Except.pure, except_bind_ok, @eq_comm _ v]

/-- If nothing is blocked, the URL gets to the others, as it came or as the next provider left it. -/
theorem visit_cons_ok_unblocked {p : Provider} {ps : List Provider} {url : Text} {v : Visit}
    (h : visit follow (p :: ps) url = .ok v) (hb : v.blocked = false) :
    (p.concerns url = false ∧ visit follow ps url = .ok v) ∨
      (p.concerns url = true ∧ ∃ x w, apply follow p url = .ok x ∧ x.blocked = false ∧
        visit follow ps x.url = .ok w ∧ w.blocked = false ∧ v = { w with matched := x.matched ++ w.matched }) := by
  rcases visit_cons_ok.mp h with passedOver | ⟨hc, x, hx, ⟨hxb, rfl⟩ | ⟨hxb, w, hw, rfl⟩⟩
  · exact Or.inl passedOver
  · rw [hxb] at hb
    cases hb
  · exact Or.inr ⟨hc, x, w, hx, hxb, hw, hb, rfl⟩

theorem resolve_ok {rules : Ruleset} {cap room : Nat} {url : Text} {v : Visit} :
    resolve rules cap room url = .ok v ↔ ∃ n, room = n + 1 ∧ visit (resolve rules cap n) rules.providers url = .ok v := by
  cases room with
  | zero => simp [resolve]
  | succ n => simp [resolve]

end Untrack.Sanitizer
