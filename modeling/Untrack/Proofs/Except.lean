/-
  Untrack.Proofs.Except — results taken apart: a sequence of computations gives a value only if each of them does,
  and fails as the first of them that fails, and so does a list of them. Results can be compared, so that a run on a
  fixed input can be decided.
-/

import Mathlib.Data.List.Forall2

namespace Untrack

variable {ε α β : Type}

instance decidableEqExcept [DecidableEq ε] [DecidableEq α] : DecidableEq (Except ε α)
  | .ok a, .ok b => decidable_of_iff (a = b) (by rw [Except.ok.injEq])
  | .error d, .error e => decidable_of_iff (d = e) (by rw [Except.error.injEq])
  | .ok _, .error _ => isFalse nofun
  | .error _, .ok _ => isFalse nofun

/-! ## One after the other -/

theorem except_bind_ok {x : Except ε α} {k : α → Except ε β} {b : β} :
    (x >>= k) = .ok b ↔ ∃ a, x = .ok a ∧ k a = .ok b := by
  cases x <;> simp [bind, Except.bind]

theorem except_bind_error {x : Except ε α} {k : α → Except ε β} {e : ε} :
    (x >>= k) = .error e ↔ x = .error e ∨ ∃ a, x = .ok a ∧ k a = .error e := by
  cases x <;> simp [bind, Except.bind]

theorem except_map_ok {x : Except ε α} {g : α → β} {b : β} : x.map g = .ok b ↔ ∃ a, x = .ok a ∧ g a = b := by
  cases x <;> simp [Except.map]

/-! ## Lists of computations -/

section Forall₂

variable {R : α → β → Prop} {l : List α} {bs : List β}

theorem exists_right_of_forall₂ (h : List.Forall₂ R l bs) : ∀ a ∈ l, ∃ b ∈ bs, R a b := by
  induction h with
  | nil => exact fun _ h => nomatch h
  | cons hb _ ih =>
    refine List.forall_mem_cons.mpr ⟨⟨_, List.mem_cons_self, hb⟩, fun a ha => ?_⟩
    obtain ⟨b, hm, hb⟩ := ih a ha
    exact ⟨b, List.mem_cons_of_mem _ hm, hb⟩

theorem exists_left_of_forall₂ (h : List.Forall₂ R l bs) : ∀ b ∈ bs, ∃ a ∈ l, R a b :=
  exists_right_of_forall₂ (R := flip R) h.flip

end Forall₂

/-- A list of computations gives values exactly if each of them gives its own. -/
theorem except_mapM_ok {f : α → Except ε β} {l : List α} {bs : List β} :
    l.mapM f = .ok bs ↔ List.Forall₂ (fun a b => f a = .ok b) l bs := by
  induction l generalizing bs with
  | nil => simp [pure, Except.pure, eq_comm]
  | cons a l ih =>
    rw [List.mapM_cons]
    constructor
    · intro h
      obtain ⟨b, hb, h⟩ := except_bind_ok.mp h
      obtain ⟨rest, hr, h⟩ := except_bind_ok.mp h
      cases h
      exact .cons hb (ih.mp hr)
    · intro h
      cases h with
      | cons hb hr => exact except_bind_ok.mpr ⟨_, hb, except_bind_ok.mpr ⟨_, ih.mpr hr, rfl⟩⟩

/-- A list of computations fails as the first of them that fails, whatever comes after it. -/
theorem except_mapM_first {f : α → Except ε β} {l : List α} {e : ε} :
    l.mapM f = .error e ↔
      ∃ before a after, l = before ++ a :: after ∧ (∀ b ∈ before, ∃ c, f b = .ok c) ∧ f a = .error e := by
  induction l with
  | nil => simp [pure, Except.pure]
  | cons a l ih =>
    rw [List.mapM_cons, except_bind_error]
    constructor
    · rintro (h | ⟨b, hb, h⟩)
      · exact ⟨[], a, l, rfl, nofun, h⟩
      rcases except_bind_error.mp h with h | ⟨_, _, h⟩
      · obtain ⟨before, c, after, rfl, given, hc⟩ := ih.mp h
        exact ⟨a :: before, c, after, rfl, List.forall_mem_cons.mpr ⟨⟨b, hb⟩, given⟩, hc⟩
      · cases h
    · rintro ⟨before, c, after, h, given, hc⟩
      cases before with
      | nil =>
        obtain ⟨rfl, rfl⟩ := List.cons.inj h
        exact Or.inl hc
      | cons _ before =>
        obtain ⟨rfl, rfl⟩ := List.cons.inj h
        obtain ⟨⟨b, hb⟩, given⟩ := List.forall_mem_cons.mp given
        exact Or.inr ⟨b, hb, except_bind_error.mpr (Or.inl (ih.mpr ⟨before, c, after, rfl, given, hc⟩))⟩

theorem except_mapM_error {f : α → Except ε β} {l : List α} {e : ε} (h : l.mapM f = .error e) :
    ∃ a ∈ l, f a = .error e := by
  obtain ⟨before, a, after, rfl, _, ha⟩ := except_mapM_first.mp h
  exact ⟨a, by simp, ha⟩

/-! ## Other faults -/

@[simp] theorem ok_mapError (a : α) (g : ε → β) : (Except.ok a).mapError g = .ok a := rfl

@[simp] theorem error_mapError (e : ε) (g : ε → β) : (Except.error e : Except ε α).mapError g = .error (g e) := rfl

theorem mapError_ok {x : Except ε α} {g : ε → β} {a : α} : x.mapError g = .ok a ↔ x = .ok a := by
  cases x <;> simp

theorem mapError_error {δ : Type} {x : Except ε α} {g : ε → δ} {d : δ} :
    x.mapError g = .error d ↔ ∃ e, x = .error e ∧ g e = d := by
  cases x <;> simp

end Untrack
