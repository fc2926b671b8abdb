/-
  Untrack.Proofs.Sanitizer.Faults — with rules that were read from a document, cleaning a URL fails only as foreseen
  (`read_rules_fail_as_foreseen`): at a URL, the one given or one that it leads to, that cannot be taken apart, or
  when the levels run out. Every redirection of such rules has a group, so wherever it is found there is a target to
  be asked for; and no URL is taken apart but by `Query.clean`, which says of which URL it was and why.

  A fault of a run is a fault of one of its parts (`resolve_error`): one lemma for each part of the cleaning, from a
  redirection up to the levels, says so of any property of faults.
-/

import Untrack.Proofs.Pattern.Groups
import Untrack.Proofs.Ruleset.Reading
import Untrack.Sanitizer

namespace Untrack

/-- Every redirection has a group for its target. -/
def Ruleset.HasTargets (rules : Ruleset) : Prop :=
  ∀ p ∈ rules.providers, ∀ r ∈ p.redirections, 1 ≤ r.pattern.groups

theorem Ruleset.IsRead.hasTargets {rules : Ruleset} (h : rules.IsRead) : rules.HasTargets := by
  intro p hp
  obtain ⟨name, fields, from_⟩ := h.from_fields hp
  exact from_.targets

/-- The fault is that a URL cannot be taken apart, for the reason given, or that there are more levels than the cap. -/
def CleanFault.Foreseen (cap : Nat) (f : CleanFault) : Prop :=
  (∃ url reason, f = .invalidUrl url reason ∧ Url.wellFormed url = .error reason) ∨ ∃ url, f = .redirectLoop url cap

namespace Sanitizer

variable {follow : Text → Except CleanFault Visit} {cap : Nat} {f : CleanFault} {P : CleanFault → Prop}

/-! ## Whatever holds of the faults of its parts holds of the faults of a run -/

theorem followAll_error (hf : ∀ t f, follow t = .error f → P f) {source : Text} {rs : List Redirection}
    (ht : ∀ r ∈ rs, ∀ f, target? r source = .error f → P f) {v : Visit}
    (h : followAll follow source rs v = .error f) : P f := by
  induction rs generalizing v with
  | nil => cases h
  | cons r rs ih =>
    obtain ⟨first, rest⟩ := List.forall_mem_cons.mp ht
    rw [followAll] at h
    rcases except_bind_error.mp h with h | ⟨t, _, h⟩
    · exact first f h
    cases t with
    | none => exact ih rest h
    | some target =>
      rcases except_bind_error.mp h with h | ⟨w, _, h⟩
      · exact hf target f h
      · dsimp only at h
        split at h
        · cases h
        · exact ih rest h

theorem apply_error (hf : ∀ t f, follow t = .error f → P f) {p : Provider} {url : Text}
    (ht : ∀ r ∈ p.redirections, ∀ f, target? r url = .error f → P f) (hq : ∀ u f, cleanQuery p u = .error f → P f)
    (h : apply follow p url = .error f) : P f := by
  unfold apply at h
  split at h
  · cases h
  · rcases except_bind_error.mp h with h | ⟨v, _, h⟩
    · exact followAll_error hf ht h
    · split at h
      · cases h
      · rcases except_bind_error.mp h with h | ⟨_, _, h⟩
        · exact hq v.url f h
        · cases h

theorem visit_error (hf : ∀ t f, follow t = .error f → P f) {ps : List Provider}
    (ht : ∀ p ∈ ps, ∀ r ∈ p.redirections, ∀ url f, target? r url = .error f → P f)
    (hq : ∀ p u f, cleanQuery p u = .error f → P f) {url : Text} (h : visit follow ps url = .error f) : P f := by
  induction ps generalizing url with
  | nil => cases h
  | cons p ps ih =>
    obtain ⟨first, rest⟩ := List.forall_mem_cons.mp ht
    rw [visit] at h
    split at h
    · exact ih rest h
    · rcases except_bind_error.mp h with h | ⟨v, _, h⟩
      · exact apply_error hf (fun r hr => first r hr url) (hq p) h
      · split at h
        · cases h
        · rcases except_bind_error.mp h with h | ⟨_, _, h⟩
          · exact ih rest h
          · cases h

/-- Whatever the level: induction on the levels left. -/
theorem resolve_error {rules : Ruleset} (loop : ∀ url, P (.redirectLoop url cap))
    (ht : ∀ p ∈ rules.providers, ∀ r ∈ p.redirections, ∀ url f, target? r url = .error f → P f)
    (hq : ∀ p u f, cleanQuery p u = .error f → P f) {room : Nat} {url : Text}
    (h : resolve rules cap room url = .error f) : P f := by
  induction room generalizing url f with
  | zero =>
    cases h
    exact loop url
  | succ n ih => exact visit_error (fun _ _ => ih) ht hq h

/-! ## The faults of the parts -/

/-- Whether a redirection with a group leads anywhere can always be told. -/
theorem target?_ok {r : Redirection} (groups : 1 ≤ r.pattern.groups) (url : Text) : ∃ t, target? r url = .ok t := by
  unfold target?
  split
  · exact ⟨_, rfl⟩
  · rename_i m found
    obtain ⟨g, hg⟩ := Pattern.group?_one (Nat.ne_of_gt groups) found
    rw [hg]
    exact ⟨_, rfl⟩

theorem target?_error {r : Redirection} {url : Text} (h : target? r url = .error f) : f = .noGroup := by
  unfold target? at h
  split at h
  · cases h
  · split at h <;> cases h
    rfl

theorem cleanQuery_fault {p : Provider} {url : Text} (h : cleanQuery p url = .error f) : f.Foreseen cap := by
  obtain ⟨reason, refused, rfl⟩ := mapError_error.mp h
  refine Or.inl ⟨url, reason, rfl, ?_⟩
  unfold Query.clean at refused
  rcases except_bind_error.mp refused with h | ⟨parts, _, h⟩
  · exact h
  · dsimp only at h
    split at h
    · cases h
    · split at h <;> cases h

theorem resolve_fault {rules : Ruleset} (targets : rules.HasTargets) {room : Nat} {url : Text}
    (h : resolve rules cap room url = .error f) : f.Foreseen cap := by
  refine resolve_error (fun url => Or.inr ⟨url, rfl⟩) ?_ (fun _ _ _ => cleanQuery_fault) h
  intro p hp r hr url f h
  obtain ⟨t, ht⟩ := target?_ok (targets p hp r hr) url
  rw [ht] at h
  cases h

/-- With any rules, a fault that is told of a URL is a foreseen one. -/
theorem foreseen_of_isOfUrl {rules : Ruleset} {room : Nat} {url : Text}
    (h : resolve rules cap room url = .error f) (told : f.isOfUrl = true) : f.Foreseen cap := by
  refine resolve_error (P := fun f => f.isOfUrl = true → f.Foreseen cap) (fun url _ => Or.inr ⟨url, rfl⟩) ?_
    (fun _ _ _ hq _ => cleanQuery_fault hq) h told
  intro p _ r _ url f h told
  rw [target?_error h] at told
  cases told

/-- With rules read from a document, whatever the URL and the cap: cleaning gives a result, or tells of a URL that it
cannot be taken apart and why, or that the cap is exceeded. Wherever in a text a redirection of these rules is found,
its first group can be asked for. -/
theorem read_rules_fail_as_foreseen {rules : Ruleset} (read : rules.IsRead) (s : Sanitizer) (url : Text) :
    ((∃ result, s.sanitize url rules = .ok result) ∨
      (∃ u reason, s.sanitize url rules = .error (.invalidUrl u reason) ∧ Url.wellFormed u = .error reason) ∨
      ∃ u, s.sanitize url rules = .error (.redirectLoop u s.cap)) ∧
    ∀ p ∈ rules.providers, ∀ r ∈ p.redirections, ∀ t m, r.pattern.find? t = some m → ∃ g, m.group? t 1 = some g := by
  refine ⟨?_, ?_⟩
  · rcases h : s.sanitize url rules with f | result
    · right
      rcases except_bind_error.mp h with h | ⟨_, _, h⟩
      · rcases resolve_fault read.hasTargets h with ⟨u, reason, rfl, unreadable⟩ | ⟨u, rfl⟩
        · exact Or.inl ⟨u, reason, rfl, unreadable⟩
        · exact Or.inr ⟨u, rfl⟩
      · cases h
    · exact Or.inl ⟨result, rfl⟩
  · intro p hp r hr t m found
    exact Pattern.group?_one (Nat.ne_of_gt (read.hasTargets p hp r hr)) found

/-- Links that lead out of a mailbox carry their target. -/
def mailbox : Text :=
  "\x7b\"providers\":\x7b\"mail\":\x7b\"urlPattern\":\"//\",\"redirections\":[\"to=([^&]*)\"]\x7d\x7d\x7d".toList

/-- A link whose target has a bracket that is not closed. -/
def brokenTarget : Text := "https://mail.example/out?to=http%3A%2F%2F%5Bshop&id=7".toList

/-- The target, decoded, is the URL that cannot be taken apart. -/
theorem mailbox_broken :
    ∃ rules, rules.IsRead ∧
      standard.sanitize brokenTarget rules =
        .error (.invalidUrl "http://[shop".toList (.unreadable .unmatchedBracket)) ∧
      Url.wellFormed "http://[shop".toList = .error (.unreadable .unmatchedBracket) ∧
      (∃ p ∈ rules.providers, ∃ r ∈ p.redirections, (r.pattern.find? brokenTarget).isSome = true) ∧
      ∀ p ∈ rules.providers, ∀ r ∈ p.redirections, ∀ m, r.pattern.find? brokenTarget = some m →
        ∃ g, m.group? brokenTarget 1 = some g := by
  have reading : (Ruleset.ofText mailbox).map (fun rules => (standard.sanitize brokenTarget rules,
        rules.providers.any fun p => p.redirections.any fun r => (r.pattern.find? brokenTarget).isSome)) =
      .ok (.error (.invalidUrl "http://[shop".toList (.unreadable .unmatchedBracket)), true) := by decide +kernel
  rcases h : Ruleset.ofText mailbox with f | rules <;> rw [h] at reading
  · cases reading
  simp only [Except.map, Except.ok.injEq, Prod.mk.injEq, List.any_eq_true] at reading
  obtain ⟨failed, found⟩ := reading
  have read : rules.IsRead := Or.inl ⟨mailbox, h⟩
  obtain ⟨outcome, asked⟩ := read_rules_fail_as_foreseen read standard brokenTarget
  refine ⟨rules, read, failed, ?_, found, fun p hp r hr => asked p hp r hr brokenTarget⟩
  rw [failed] at outcome
  rcases outcome with ⟨_, h⟩ | ⟨u, reason, h, unreadable⟩ | ⟨_, h⟩ <;> cases h
  exact unreadable

end Sanitizer
end Untrack
