/-
  Untrack.Proofs.Ruleset.Canonical — a rule set is a map from names to providers, in one form (`canonical_map`).
  Providers of which two share a name make none, and the name told is the first to come a second time. Others make the
  same rule set in whatever order they come: they are put in the order of their names, and each is found by its own.
-/

import Untrack.Proofs.Ruleset.Handmade
import Untrack.Proofs.Ruleset.Names

namespace Untrack.Ruleset

/-- The name is that of the provider at the first position whose name occurred before. -/
def Repeats (ps : List Provider) (name : Text) : Prop :=
  ∃ before p after, ps = before ++ p :: after ∧ p.name = name ∧ name ∈ before.map (·.name) ∧
    (before.map (·.name)).Nodup

/-- The rules are a map with these providers, in the order of their names. Whether a name has a provider is told alike in
three ways, and the provider it has is the one of that name. -/
structure MapOf (rules : Ruleset) (ps : List Provider) : Prop where
  perm : rules.providers.Perm ps
  increasing : rules.names.Pairwise Text.Before
  contains : ∀ s, rules.contains s = true ↔ s ∈ rules.names
  found : ∀ s, rules.get? s ≠ none ↔ s ∈ rules.names
  get : ∀ s p, rules.get? s = some p ↔ p ∈ ps ∧ p.name = s

/-! ## Names given twice -/

/-- The first repeated name comes after names that differ, and is one of them or of those seen already. -/
theorem firstRepeated_eq_some {seen names : List Text} {n : Text} :
    firstRepeated seen names = some n ↔
      ∃ before after, names = before ++ n :: after ∧ firstRepeated seen before = none ∧ (n ∈ seen ∨ n ∈ before) := by
  induction names generalizing seen with
  | nil => simp [firstRepeated]
  | cons m ms ih =>
    rw [firstRepeated]
    by_cases hm : m ∈ seen
    · rw [if_pos hm, Option.some.injEq]
      constructor
      · rintro rfl
        exact ⟨[], ms, rfl, rfl, Or.inl hm⟩
      · rintro ⟨before, after, h, unrepeated, _⟩
        cases before with
        | nil => exact (List.cons.inj h).1
        | cons b before =>
          obtain ⟨rfl, _⟩ := List.cons.inj h
          rw [firstRepeated, if_pos hm] at unrepeated
          cases unrepeated
    · have moved : ∀ before, (n ∈ m :: seen ∨ n ∈ before) ↔ (n ∈ seen ∨ n ∈ m :: before) := by
        intro before
        simp only [List.mem_cons, or_assoc, or_left_comm]
      rw [if_neg hm, ih]
      constructor
      · rintro ⟨before, after, rfl, unrepeated, occurred⟩
        exact ⟨m :: before, after, rfl, by rwa [firstRepeated, if_neg hm], (moved before).mp occurred⟩
      · rintro ⟨before, after, h, unrepeated, occurred⟩
        cases before with
        | nil =>
          obtain ⟨rfl, _⟩ := List.cons.inj h
          simp [hm] at occurred
        | cons b before =>
          obtain ⟨rfl, rfl⟩ := List.cons.inj h
          rw [firstRepeated, if_neg hm] at unrepeated
          exact ⟨before, after, rfl, unrepeated, (moved before).mpr occurred⟩

variable {ps : List Provider} {rules : Ruleset}

theorem ofProviders_error_iff {name : Text} : ofProviders ps = .error name ↔ Repeats ps name := by
  have refused : ofProviders ps = .error name ↔ firstRepeated [] (ps.map (·.name)) = some name := by
    unfold ofProviders
    cases firstRepeated [] (ps.map (·.name)) <;> simp
  rw [refused, firstRepeated_eq_some]
  constructor
  · rintro ⟨before, after, split, unrepeated, occurred⟩
    obtain ⟨bs, rest, rfl, rfl, last⟩ := List.map_eq_append_iff.mp split
    obtain ⟨p, as, rfl, rfl, rfl⟩ := List.map_eq_cons_iff.mp last
    exact ⟨bs, p, as, rfl, rfl, occurred.resolve_left List.not_mem_nil, (firstRepeated_eq_none.mp unrepeated).1⟩
  · rintro ⟨before, p, after, rfl, rfl, occurred, differ⟩
    refine ⟨before.map (·.name), after.map (·.name), by simp, ?_, Or.inr occurred⟩
    exact firstRepeated_eq_none.mpr ⟨differ, fun _ _ => List.not_mem_nil⟩

/-- Providers make a rule set exactly if their names differ. -/
theorem exists_ofProviders_iff : (∃ rules, ofProviders ps = .ok rules) ↔ (ps.map (·.name)).Nodup := by
  constructor
  · rintro ⟨rules, h⟩
    obtain ⟨perm, differ⟩ := ofProviders_ok h
    exact (perm.map _).nodup_iff.mp differ
  · intro differ
    exact ⟨⟨ps.mergeSort byName⟩, ofProviders_ok_iff.mpr ⟨List.mergeSort_perm ps byName, names_mergeSort differ⟩⟩

/-! ## Names looked up -/

theorem contains_iff (s : Text) : rules.contains s = true ↔ s ∈ rules.names := by
  simp [contains, names]

theorem get?_ne_none_iff (s : Text) : rules.get? s ≠ none ↔ s ∈ rules.names := by
  simp [get?, names]

theorem get?_eq_some_iff (differ : rules.names.Nodup) {s : Text} {p : Provider} :
    rules.get? s = some p ↔ p ∈ rules.providers ∧ p.name = s := by
  constructor
  · intro h
    have named := List.find?_some h
    exact ⟨List.mem_of_find?_eq_some h, eq_of_beq named⟩
  · rintro ⟨hp, rfl⟩
    exact get?_of_mem differ hp

theorem mapOf_of_ofProviders (h : ofProviders ps = .ok rules) : rules.MapOf ps := by
  obtain ⟨perm, increasing⟩ := ofProviders_ok_iff.mp h
  refine ⟨perm, increasing, contains_iff, get?_ne_none_iff, fun s p => ?_⟩
  rw [get?_eq_some_iff (nodup_of_increasing increasing), perm.mem_iff]

theorem ofProviders_perm {qs : List Provider} (h : ofProviders ps = .ok rules) (hq : qs.Perm ps) :
    ofProviders qs = .ok rules := by
  obtain ⟨perm, increasing⟩ := ofProviders_ok_iff.mp h
  exact ofProviders_ok_iff.mpr ⟨perm.trans hq.symm, increasing⟩

/-- Whatever the providers: they are refused exactly if two of them share a name, and the name told is the first to come
a second time. If their names differ they make a rule set, which is a map with them in the order of their names, and
so they do in any other order. -/
theorem canonical_map (ps : List Provider) :
    ((∃ name, ofProviders ps = .error name) ↔ ¬ (ps.map (·.name)).Nodup) ∧
      (∀ name, ofProviders ps = .error name ↔ Repeats ps name) ∧
      ((ps.map (·.name)).Nodup →
        ∃ rules, ofProviders ps = .ok rules ∧ rules.MapOf ps ∧ ∀ qs, qs.Perm ps → ofProviders qs = .ok rules) := by
  refine ⟨?_, fun name => ofProviders_error_iff, fun differ => ?_⟩
  · rw [← exists_ofProviders_iff]
    cases ofProviders ps <;> simp
  · obtain ⟨rules, made⟩ := exists_ofProviders_iff.mpr differ
    exact ⟨rules, made, mapOf_of_ofProviders made, fun qs => ofProviders_perm made⟩

/-- Three providers in three orders, and one of them twice: the name told is not the first that is shared, but the first
to come again. -/
theorem ordered_three :
    let a : Provider := .concerning "amazon" "amazon"
    let d : Provider := .concerning "doubleclick" "doubleclick"
    let z : Provider := .concerning "zeta" "zeta"
    ofProviders [z, a, d] = .ok ⟨[a, d, z]⟩ ∧ ofProviders [d, z, a] = .ok ⟨[a, d, z]⟩ ∧
      ofProviders [z, a, d, a, z] = .error "amazon".toList := by
  intro a d z
  have differ : ([z, a, d].map (·.name)).Nodup := by decide +kernel
  have sorted : ofProviders [a, d, z] = .ok ⟨[a, d, z]⟩ := by
    have inOrder : [a, d, z].Pairwise fun p q => byName p q = true := by decide +kernel
    have unrepeated : firstRepeated [] (Ruleset.names ⟨[a, d, z]⟩) = none := by decide +kernel
    exact ofProviders_sorted inOrder unrepeated
  obtain ⟨_, _, made⟩ := canonical_map [z, a, d]
  obtain ⟨rules, read, _, same⟩ := made differ
  obtain rfl := Except.ok.inj ((same [a, d, z] (by decide +kernel)).symm.trans sorted)
  obtain ⟨_, told, _⟩ := canonical_map [z, a, d, a, z]
  exact ⟨read, same [d, z, a] (by decide +kernel), (told _).mpr ⟨[z, a, d], a, [z], rfl, rfl, by decide +kernel, differ⟩⟩

end Untrack.Ruleset
