/-
  Untrack.Proofs.Ruleset.Names — a rule set made of providers keeps all of them and gives no name twice, so a
  provider in it is the one that its name leads to (`get?_of_mem`). Rule sets are made of providers exactly if no name
  is given twice, and then they are these providers in the order of their names (`ofProviders_ok_iff`).
-/

import Untrack.Proofs.Text.Order
import Untrack.Ruleset.Basic

namespace Untrack.Ruleset

/-- No name is repeated exactly if all names differ from each other and from those seen already. -/
theorem firstRepeated_eq_none {seen names : List Text} :
    firstRepeated seen names = none ↔ names.Nodup ∧ ∀ n ∈ names, n ∉ seen := by
  induction names generalizing seen with
  | nil => simp [firstRepeated]
  | cons n ns ih =>
    rw [firstRepeated]
    by_cases hn : n ∈ seen
    · simp [hn]
    · simp only [hn, if_false, ih, List.nodup_cons, List.mem_cons, not_or]
      constructor
      · rintro ⟨hd, hs⟩
        refine ⟨⟨fun h => (hs n h).1 rfl, hd⟩, ?_⟩
        rintro m (rfl | hm)
        · exact hn
        · exact (hs m hm).2
      · rintro ⟨⟨hns, hd⟩, hs⟩
        exact ⟨hd, fun m hm => ⟨fun h => hns (h ▸ hm), hs m (Or.inr hm)⟩⟩

/-- A rule set made of providers holds just these, with names that differ. -/
theorem ofProviders_ok {ps : List Provider} {rules : Ruleset} (h : ofProviders ps = .ok rules) :
    rules.providers.Perm ps ∧ rules.names.Nodup := by
  unfold ofProviders at h
  split at h
  · cases h
  · rename_i hn
    cases h
    have hp : (ps.mergeSort byName).Perm ps := List.mergeSort_perm ps byName
    exact ⟨hp, (hp.map _).nodup_iff.mpr (firstRepeated_eq_none.mp hn).1⟩

/-- Sorted, providers whose names differ have names that increase. -/
theorem names_mergeSort {ps : List Provider} (h : (ps.map (·.name)).Nodup) :
    ((ps.mergeSort byName).map (·.name)).Pairwise Text.Before := by
  have trans : ∀ p q r, byName p q = true → byName q r = true → byName p r = true := fun _ _ _ => Text.precedes_trans
  have total : ∀ p q, (byName p q || byName q p) = true := fun p q => Text.precedes_total p.name q.name
  have sorted : (ps.mergeSort byName).Pairwise fun p q => byName p q = true := List.pairwise_mergeSort trans total ps
  have differ : ((ps.mergeSort byName).map (·.name)).Nodup :=
    ((List.mergeSort_perm ps byName).map _).nodup_iff.mpr h
  rw [List.pairwise_map]
  refine List.Pairwise.imp₂ ?_ sorted (List.pairwise_map.mp differ)
  intro p q hp hne
  exact (Text.precedes_iff.mp hp).resolve_left hne

theorem nodup_of_increasing {names : List Text} (h : names.Pairwise Text.Before) : names.Nodup := by
  refine List.Pairwise.imp ?_ h
  rintro a b before rfl
  exact Text.not_before_self a before

/-- A rule set is made of providers exactly if it is these providers with names that increase. -/
theorem ofProviders_ok_iff {ps : List Provider} {rules : Ruleset} :
    ofProviders ps = .ok rules ↔ rules.providers.Perm ps ∧ rules.names.Pairwise Text.Before := by
  constructor
  · intro h
    obtain ⟨perm, differ⟩ := ofProviders_ok h
    refine ⟨perm, ?_⟩
    unfold ofProviders at h
    split at h
    · cases h
    · cases h
      exact names_mergeSort ((perm.map _).nodup_iff.mp differ)
  · rintro ⟨perm, increasing⟩
    have differ : (ps.map (·.name)).Nodup := (perm.map _).nodup_iff.mp (nodup_of_increasing increasing)
    -- two orders of the same providers, both by increasing names
    have same : ps.mergeSort byName = rules.providers := by
      have sorted := List.pairwise_map.mp (names_mergeSort differ)
      have given : rules.providers.Pairwise fun p q => p.name.Before q.name := List.pairwise_map.mp increasing
      refine List.Perm.eq_of_pairwise ?_ sorted given ((List.mergeSort_perm ps byName).trans perm.symm)
      exact fun p q _ _ h k => absurd k h.asymm
    have unrepeated : firstRepeated [] (ps.map (·.name)) = none :=
      firstRepeated_eq_none.mpr ⟨differ, fun _ _ h => nomatch h⟩
    simp only [ofProviders, unrepeated, same]

/-- Providers in the order of their names, no name twice, are a rule set as they stand. -/
theorem ofProviders_sorted {rules : Ruleset} (sorted : rules.providers.Pairwise fun p q => byName p q = true)
    (differ : firstRepeated [] rules.names = none) : ofProviders rules.providers = .ok rules := by
  have differ : firstRepeated [] (rules.providers.map (·.name)) = none := differ
  simp only [ofProviders, differ, List.mergeSort_of_pairwise sorted]

theorem get?_of_mem {rules : Ruleset} (hn : rules.names.Nodup) {p : Provider} (hp : p ∈ rules.providers) :
    rules.get? p.name = some p := by
  obtain ⟨ps⟩ := rules
  unfold get?
  induction ps with
  | nil => cases hp
  | cons q qs ih =>
    obtain ⟨hq, hd⟩ := List.nodup_cons.mp (hn : (q.name :: qs.map (·.name)).Nodup)
    rw [List.find?_cons]
    rcases List.mem_cons.mp hp with rfl | hp
    · simp
    · have differ : q.name ≠ p.name := fun h => hq (List.mem_map.mpr ⟨p, hp, h.symm⟩)
      rw [beq_eq_false_iff_ne.mpr differ]
      exact ih hd hp

end Untrack.Ruleset
