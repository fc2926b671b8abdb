/-
  Untrack.Proofs.Refresh.Rounds — rounds run on their own, one after the other, whatever comes of them. The rounds of
  the loop are those, as long as they fail as foreseen (`runRounds_of_foreseen`); a round that fails in another way is
  the last (`runRounds_of_escape`). The cache is then what the last successful round has downloaded (`kept`), and what it
  was before if there is none (`shelf_afterRounds`).
-/

import Mathlib.Logic.Function.Iterate
import Untrack.Proofs.Store.Failure
import Untrack.Proofs.Store.ReadBack

namespace Untrack.Refresh

/-- The world after so many rounds, whatever came of them. -/
def afterRounds (r : Refresh) (n : Nat) (w : World) : World := (fun w => (r.runOnce w).2)^[n] w

/-- What comes of the round after so many others. -/
def outcome (r : Refresh) (w : World) (n : Nat) : Except Fault Summary := (r.runOnce (r.afterRounds n w)).1

def outcomes (r : Refresh) (w : World) (n : Nat) : List (Except Fault Summary) := (List.range n).map (r.outcome w)

/-- So many rounds succeed or fail as foreseen. -/
def Foreseen (r : Refresh) (w : World) (n : Nat) : Prop :=
  ∀ i < n, ∀ f, r.outcome w i = .error f → f.isOfRules = true

variable {r : Refresh} {w : World} {n : Nat}

theorem afterRounds_succ (r : Refresh) (n : Nat) (w : World) :
    r.afterRounds (n + 1) w = (r.runOnce (r.afterRounds n w)).2 := Function.iterate_succ_apply' _ _ _

theorem outcomes_succ (r : Refresh) (w : World) (n : Nat) : r.outcomes w (n + 1) = r.outcomes w n ++ [r.outcome w n] := by
  simp [outcomes, List.range_succ]

theorem runOnce_afterRounds (r : Refresh) (n : Nat) (w : World) :
    r.runOnce (r.afterRounds n w) = (r.outcome w n, r.afterRounds (n + 1) w) := by
  rw [afterRounds_succ]
  rfl

theorem Foreseen.mono {m : Nat} (h : r.Foreseen w n) (hm : m ≤ n) : r.Foreseen w m := fun i hi => h i (by omega)

theorem Foreseen.not_escapes {i : Nat} {f : Fault} (h : r.Foreseen w n) (hi : i < n) (fails : r.outcome w i = .error f) :
    f.isOfRules ≠ false := by
  rw [h i hi f fails]
  exact nofun

theorem Foreseen.succ (h : r.Foreseen w n) (hn : ∀ f, r.outcome w n = .error f → f.isOfRules = true) :
    r.Foreseen w (n + 1) := by
  intro i hi f hf
  by_cases last : i = n
  · subst last
    exact hn f hf
  · exact h i (by omega) f hf

instance decidableForeseen (r : Refresh) (w : World) (n : Nat) : Decidable (r.Foreseen w n) :=
  decidable_of_iff (∀ i < n, (match r.outcome w i with
      | .ok _ => true
      | .error f => f.isOfRules) = true) <| forall₂_congr fun i _ => by
    cases r.outcome w i <;> simp

/-! ## The rounds of the loop -/

theorem round_run (r : Refresh) (w : World) :
    r.round w = match r.runOnce w with
      | (.ok s, w) => (.ok (.ok s), w)
      | (.error f, w) => (if f.isOfRules then .ok (.error f) else .error f, w) := by
  have observed : observe r.runOnce w = (.ok (r.runOnce w).1, (r.runOnce w).2) := rfl
  rw [round, bind_run, observed]
  rcases r.runOnce w with ⟨f | s, after⟩
  · by_cases hf : f.isOfRules = true
    · simp only [hf, if_true]
      rfl
    · simp only [hf]
      rfl
  · rfl

/-- A round that succeeds or fails as foreseen has its outcome noted. -/
theorem round_afterRounds {i : Nat} (h : ∀ f, r.outcome w i = .error f → f.isOfRules = true) :
    r.round (r.afterRounds i w) = (.ok (r.outcome w i), r.afterRounds (i + 1) w) := by
  rw [round_run, runOnce_afterRounds]
  cases ho : r.outcome w i with
  | ok s => rfl
  | error f => simp only [h f ho, if_true]

/-- More rounds, after so many others: induction on how many more. -/
theorem runRounds_afterRounds (k i : Nat) (h : r.Foreseen w (i + k)) :
    r.runRounds k (r.afterRounds i w) = (.ok ((List.range' i k).map (r.outcome w)), r.afterRounds (i + k) w) := by
  induction k generalizing i with
  | zero => rfl
  | succ k ih =>
    have first := round_afterRounds (h i (by omega))
    have rest := ih (i + 1) (by rwa [Nat.add_right_comm])
    rw [runRounds, bind_of_ok first, bind_of_ok rest, Nat.add_right_comm]
    rfl

theorem runRounds_of_foreseen (h : r.Foreseen w n) : r.runRounds n w = (.ok (r.outcomes w n), r.afterRounds n w) := by
  have all := runRounds_afterRounds n 0 (by rwa [Nat.zero_add])
  rwa [Nat.zero_add, ← List.range_eq_range'] at all

/-- However many rounds there were to be, the first one that fails as no one foresaw is the last. -/
theorem runRounds_of_escape {f : Fault} (h : r.Foreseen w n) (last : r.outcome w n = .error f)
    (escapes : f.isOfRules = false) (k i : Nat) (hi : i ≤ n) (hk : n < i + k) :
    r.runRounds k (r.afterRounds i w) = (.error f, r.afterRounds (n + 1) w) := by
  induction k generalizing i with
  | zero => omega
  | succ k ih =>
    by_cases hn : i = n
    · subst hn
      have ends : r.round (r.afterRounds i w) = (.error f, r.afterRounds (i + 1) w) := by
        rw [round_run, runOnce_afterRounds, last]
        simp only [escapes]
        rfl
      rw [runRounds, bind_of_error ends]
    · have first := round_afterRounds (h i (by omega))
      have rest := ih (i + 1) (by omega) (by omega)
      rw [runRounds, bind_of_ok first, bind_of_error rest]

/-! ## The cache -/

/-- Rounds that fail leave the cache as it is. -/
theorem shelf_afterRounds {i : Nat} (hi : i ≤ n) (failing : ∀ j, i ≤ j → j < n → ∀ s, r.outcome w j ≠ .ok s) :
    (r.afterRounds n w).shelf = (r.afterRounds i w).shelf := by
  induction n, hi using Nat.le_induction with
  | base => rfl
  | succ n hi ih =>
    have before := ih fun j hj hn => failing j hj (by omega)
    have round := runOnce_afterRounds r n w
    cases ho : r.outcome w n with
    | ok s => exact absurd ho (failing n hi (by omega) s)
    | error f => exact (runOnce_error (ho ▸ round)).trans before

/-- No time goes by in a round. -/
theorem now_runOnce (r : Refresh) (w : World) : (r.runOnce w).2.now = w.now := by
  have looked := (Download.checked_quiet r.source w).2
  rw [runOnce_run]
  rcases hc : Download.checked r.source w with ⟨f | ⟨document, rules⟩, between⟩ <;> rw [hc] at looked
  · exact looked
  · dsimp only
    rcases Cache.writeText_cases r.location document between with ⟨f, h⟩ | ⟨_, h⟩ <;> rw [h] <;> exact looked

theorem now_afterRounds (r : Refresh) (n : Nat) (w : World) : (r.afterRounds n w).now = w.now := by
  induction n with
  | zero => rfl
  | succ n ih => rw [afterRounds_succ, now_runOnce, ih]

/-- Of so many rounds, the one after so many others is the last to succeed. -/
structure LastSuccess (r : Refresh) (w : World) (n i : Nat) : Prop where
  within : i < n
  succeeds : ∃ s, r.outcome w i = .ok s
  last : ∀ j, i < j → j < n → ∀ s, r.outcome w j ≠ .ok s

theorem LastSuccess.unique {i j : Nat} (hi : r.LastSuccess w n i) (hj : r.LastSuccess w n j) : i = j := by
  obtain ⟨s, hs⟩ := hi.succeeds
  obtain ⟨t, ht⟩ := hj.succeeds
  rcases Nat.lt_trichotomy i j with before | same | after
  · exact absurd ht (hi.last j before hj.within t)
  · exact same
  · exact absurd hs (hj.last i after hi.within s)

/-- No round succeeds, or one is the last to: induction on their number. -/
theorem none_or_lastSuccess (r : Refresh) (w : World) (n : Nat) :
    (∀ i < n, ∀ s, r.outcome w i ≠ .ok s) ∨ ∃ i, r.LastSuccess w n i := by
  induction n with
  | zero => exact Or.inl nofun
  | succ n ih =>
    cases ho : r.outcome w n with
    | ok s => exact Or.inr ⟨n, Nat.lt_succ_self n, ⟨s, ho⟩, fun j above below => by omega⟩
    | error f =>
      have fails : ∀ s, r.outcome w n ≠ .ok s := by
        rw [ho]
        exact nofun
      rcases ih with none | ⟨i, within, succeeds, last⟩
      · left
        intro i hi
        by_cases h : i = n
        · exact h ▸ fails
        · exact none i (by omega)
      · right
        refine ⟨i, by omega, succeeds, fun j above below => ?_⟩
        by_cases h : j = n
        · exact h ▸ fails
        · exact last j above (by omega)

/-- The cache has the body that the last successful round was sent. -/
theorem kept {i : Nat} (h : r.LastSuccess w n i) :
    ∃ body, r.source.rulesResponse (r.afterRounds i w) = .reply 200 body ∧
      (r.afterRounds n w).shelf.spot = .file body w.now := by
  obtain ⟨s, succeeds⟩ := h.succeeds
  let st : Store := ⟨r.source, r.location, ⟨0⟩⟩
  have round : st.refresher.runOnce (r.afterRounds i w) = (.ok s, r.afterRounds (i + 1) w) :=
    succeeds ▸ runOnce_afterRounds r i w
  obtain ⟨body, _, _, brought, _, _⟩ := st.brought_of_round (s := ⟨r.afterRounds i w, .fresh⟩) round
  have since := shelf_afterRounds (Nat.succ_le_of_lt h.within) h.last
  refine ⟨body, brought.response.1, ?_⟩
  rw [since, brought.kept, now_afterRounds]

end Untrack.Refresh
