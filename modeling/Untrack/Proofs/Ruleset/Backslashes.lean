/-
  Untrack.Proofs.Ruleset.Backslashes — how the backslashes of a pattern text are undone (`backslash_runs_halve`). A text
  is told by its other characters and by how many backslashes stand before each of them and at the end (`eq_of_runs`).
  Of each run of backslashes one half stays, and the one left over if they are odd; nothing else changes. So doubling
  the backslashes of a text is undone (`unescape_doubled`), and a text is left as it is exactly if no two of its
  backslashes stand together (`unescape_eq_self_iff`).
-/

import Mathlib.Data.Nat.Init
import Untrack.Proofs.Text.Pieces
import Untrack.Ruleset.Document

namespace Untrack.Document

/-- The characters of a text that are no backslashes. -/
def others (t : Text) : Text := t.filter (· != '\\')

/-- How many backslashes a text has in a row before each other character, and at its end. -/
def runs (t : Text) : List Nat := (t.pieces (· != '\\')).map List.length

/-- The text with each of its backslashes written twice. -/
def doubled (t : Text) : Text := t.flatMap fun c => if c = '\\' then ['\\', '\\'] else [c]

variable {s t : Text} {c : Char}

/-! ## Texts as runs and other characters -/

/-- A text is a run of backslashes, or one before another character and the rest. -/
@[elab_as_elim]
theorem induction_on_runs {motive : Text → Prop} (t : Text) (last : ∀ n, motive (List.replicate n '\\'))
    (more : ∀ n c r, c ≠ '\\' → motive r → motive (List.replicate n '\\' ++ c :: r)) : motive t := by
  have run : ∀ w : Text, (∀ c ∈ w, (c != '\\') = false) → w = List.replicate w.length '\\' := fun w h =>
    List.eq_replicate_iff.mpr ⟨rfl, fun c hc => by simpa using h c hc⟩
  induction t using Text.induction_on_pieces (· != '\\') with
  | last w h =>
    rw [run w h]
    exact last _
  | more w c r h hc ih =>
    rw [run w h]
    exact more _ c r (by simpa using hc) ih

theorem others_replicate (n : Nat) : others (List.replicate n '\\') = [] := by simp [others]

theorem others_run (n : Nat) (hc : c ≠ '\\') (t : Text) :
    others (List.replicate n '\\' ++ c :: t) = c :: others t := by
  simp [others, hc]

theorem runs_replicate (n : Nat) : runs (List.replicate n '\\') = [n] := by
  rw [runs, Text.pieces_of_none (by simp)]
  simp

theorem runs_run (n : Nat) (hc : c ≠ '\\') (t : Text) : runs (List.replicate n '\\' ++ c :: t) = n :: runs t := by
  rw [runs, Text.pieces_append_separator (by simp) (by simpa using hc)]
  simp [runs]

/-- The other characters of a text and its runs of backslashes make up the text. -/
theorem eq_of_runs (ho : others s = others t) (hr : runs s = runs t) : s = t := by
  -- along both texts, run by run
  induction s using induction_on_runs generalizing t with
  | last n =>
    cases t using induction_on_runs with
    | last m =>
      rw [runs_replicate, runs_replicate, List.singleton_inj] at hr
      rw [hr]
    | more m d r hd => simp [others_replicate, others_run m hd] at ho
  | more n c q hc ih =>
    cases t using induction_on_runs with
    | last m => simp [others_replicate, others_run n hc] at ho
    | more m d r hd =>
      rw [others_run n hc, others_run m hd, List.cons.injEq] at ho
      rw [runs_run n hc, runs_run m hd, List.cons.injEq] at hr
      obtain ⟨rfl, ho⟩ := ho
      obtain ⟨rfl, hr⟩ := hr
      rw [ih ho hr]

/-! ## Runs of backslashes undone -/

theorem unescape_cons (hc : c ≠ '\\') (t : Text) : unescape (c :: t) = c :: unescape t := by
  rw [unescape]
  exact fun _ h => absurd h hc

/-- Of a run of backslashes that nothing goes on, one half stays, rounded up. -/
theorem unescape_run (n : Nat) (end_ : t.head? ≠ some '\\') :
    unescape (List.replicate n '\\' ++ t) = List.replicate ((n + 1) / 2) '\\' ++ unescape t := by
  induction n using Nat.twoStepInduction with
  | zero => rfl
  | one =>
    show unescape ('\\' :: t) = '\\' :: unescape t
    rw [unescape]
    rintro r - rfl
    exact end_ rfl
  | more n ih _ =>
    have half : (n + 2 + 1) / 2 = (n + 1) / 2 + 1 := by omega
    rw [half]
    exact congrArg ('\\' :: ·) ih

theorem unescape_replicate (n : Nat) :
    unescape (List.replicate n '\\') = List.replicate ((n + 1) / 2) '\\' := by
  simpa [unescape] using unescape_run (t := []) n nofun

theorem unescape_run_cons (n : Nat) (hc : c ≠ '\\') (t : Text) :
    unescape (List.replicate n '\\' ++ c :: t) = List.replicate ((n + 1) / 2) '\\' ++ c :: unescape t := by
  rw [unescape_run n (by simpa using hc), unescape_cons hc]

theorem others_unescape (t : Text) : others (unescape t) = others t := by
  induction t using induction_on_runs with
  | last n => rw [unescape_replicate, others_replicate, others_replicate]
  | more n c r hc ih => rw [unescape_run_cons n hc, others_run _ hc, others_run n hc, ih]

theorem runs_unescape (t : Text) : runs (unescape t) = (runs t).map fun n => (n + 1) / 2 := by
  induction t using induction_on_runs with
  | last n => rw [unescape_replicate, runs_replicate, runs_replicate, List.map_singleton]
  | more n c r hc ih => rw [unescape_run_cons n hc, runs_run _ hc, runs_run n hc, ih, List.map_cons]

/-! ## Texts that come out as they were -/

theorem length_unescape_le (t : Text) : (unescape t).length ≤ t.length := by
  fun_induction unescape t with
  | case1 r ih => simp only [List.length_cons]; omega
  | case2 c r _ ih => simpa using ih
  | case3 => exact Nat.le_refl _

/-- A text is left as it is exactly if no two of its backslashes stand together. -/
theorem unescape_eq_self_iff : unescape t = t ↔ ¬ ['\\', '\\'] <:+: t := by
  fun_induction unescape t with
  | case1 r ih =>
    have shorter : unescape r ≠ '\\' :: r := fun h => by
      have := length_unescape_le r
      rw [h, List.length_cons] at this
      omega
    have together : ['\\', '\\'] <:+: '\\' :: '\\' :: r := ⟨[], r, rfl⟩
    simp [shorter, together]
  | case2 c r alone ih =>
    have first : ¬ ['\\', '\\'] <+: c :: r := by
      rintro ⟨rest, h⟩
      obtain ⟨rfl, rfl⟩ := List.cons.inj h
      exact alone rest rfl rfl
    rw [List.cons.injEq, List.infix_cons_iff, ih]
    simp [first]
  | case3 => simp

theorem unescape_doubled (t : Text) : unescape (doubled t) = t := by
  induction t with
  | nil => rfl
  | cons c t ih =>
    rw [doubled, List.flatMap_cons]
    split
    · rename_i hc
      rw [hc]
      exact congrArg ('\\' :: ·) ih
    · rename_i hc
      exact (unescape_cons hc _).trans (congrArg (c :: ·) ih)

/-- A pattern whose backslashes a document doubles is read as it was meant. -/
theorem patternOfValue_doubled (field : Field) (t : Text) :
    patternOfValue field (.text (doubled t)) = (Pattern.compile t).mapError (.badPattern field (doubled t)) := by
  rw [patternOfValue, unescape_doubled]

/-- Undoing the backslashes of a text leaves all other characters in their place, and of each run of backslashes one
half, rounded up; these tell what comes out. It is the text itself exactly if no two of its backslashes stand together,
and the text again if each of them was doubled before. -/
theorem backslash_runs_halve (t : Text) :
    (∀ u, unescape t = u ↔ others u = others t ∧ runs u = (runs t).map fun n => (n + 1) / 2) ∧
      (unescape t = t ↔ ¬ ['\\', '\\'] <:+: t) ∧ unescape (doubled t) = t := by
  refine ⟨fun u => ⟨?_, ?_⟩, unescape_eq_self_iff, unescape_doubled t⟩
  · rintro rfl
    exact ⟨others_unescape t, runs_unescape t⟩
  · rintro ⟨ho, hr⟩
    exact eq_of_runs ((others_unescape t).trans ho.symm) ((runs_unescape t).trans hr.symm)

/-- Five backslashes become three, four two, and one stays. -/
example : unescape "\\\\\\\\\\d\\\\\\\\.\\w".toList = "\\\\\\d\\\\.\\w".toList := by decide

end Untrack.Document
