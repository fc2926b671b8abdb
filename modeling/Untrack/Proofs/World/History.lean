/-
  Untrack.Proofs.World.History — what stood at the cache's path. Whatever acts and changes do to the path, they only
  add to its history (`Act.Adds`). A history is renewed if nothing came to the path with the time of a file that was
  there before (`Shelf.Renewed`); then a time names at most one file of the history, and what a file's time names
  now it has named since the file was written (`Renewed.current`).
-/

import Untrack.Proofs.World.Cache
import Untrack.Proofs.World.Download

namespace Untrack

/-! ## Histories -/

namespace Cache

namespace Spot

/-- The time of modification of what stands at the path. -/
def time? : Spot → Option Int
  | file _ t => some t
  | folder t => some t
  | _ => none

/-- The time of modification of a file at the path. -/
def fileTime? : Spot → Option Int
  | file _ t => some t
  | _ => none

theorem fileTime?_eq {s : Spot} (h : ∀ t, s ≠ folder t) : s.fileTime? = s.time? := by
  cases s with
  | folder t => exact absurd rfl (h t)
  | _ => rfl

/-- What came to the path does not bear the time of a file that was there before. -/
def Renews (new old : Spot) : Prop := old.fileTime? = none ∨ old.fileTime? ≠ new.time?

instance (new old : Spot) : Decidable (new.Renews old) := inferInstanceAs (Decidable (_ ∨ _))

end Spot

namespace Shelf

/-- What stands at the path and all that stood there before, the latest first. -/
def history (s : Shelf) : List Spot := s.spot :: s.past

/-- Nothing came to the path with a time that a file there had before. -/
def Renewed (s : Shelf) : Prop := s.history.Pairwise Spot.Renews

instance (s : Shelf) : Decidable s.Renewed := inferInstanceAs (Decidable (List.Pairwise _ _))

theorem history_put (spot : Spot) (s : Shelf) : s.history <:+ (s.put spot).history := List.suffix_cons spot s.history

theorem modified?_ok {l : Location} {s : Shelf} {t : Option Int} (h : s.modified? l = .ok t) : t = s.spot.time? := by
  unfold modified? at h
  split at h <;> cases h <;> simp [Spot.time?, *]

theorem Renewed.of_suffix {s s' : Shelf} (h : s'.Renewed) (hs : s.history <:+ s'.history) : s.Renewed :=
  List.Pairwise.sublist hs.sublist h

/-- A later state of the path that bears the time of a file of an earlier one is that earlier state. -/
theorem Renewed.current {s s' : Shelf} (h : s'.Renewed) (hs : s.history <:+ s'.history) {old : Spot} {t : Int}
    (hold : old ∈ s.history) (ht : old.fileTime? = some t) (hnow : s'.spot.time? = some t) : s'.spot = s.spot := by
  rcases List.suffix_cons_iff.mp hs with hs | hs
  · exact (List.cons.inj hs).1.symm
  · have := (List.pairwise_cons.mp h).1 old (hs.subset hold)
    rw [Spot.Renews, ht, hnow] at this
    simp at this

end Shelf
end Cache

/-! ## Acts add to the history -/

theorem Change.history_apply (c : Change) (w : World) : w.shelf.history <:+ (c.apply w).shelf.history := by
  unfold apply
  split
  · exact List.suffix_rfl
  · exact List.suffix_rfl
  · split
    · exact Cache.Shelf.history_put _ _
    · exact List.suffix_rfl

theorem Store.history_othersWrite (f : Option ForeignFile) (w : World) :
    w.shelf.history <:+ (othersWrite f w).2.shelf.history := by
  cases f with
  | none => exact List.suffix_rfl
  | some f => exact Change.history_apply (.write f) w

namespace Act

/-- The act adds to the history of the cache's path, if it changes it at all. -/
def Adds (t : Act α) : Prop := ∀ w, w.shelf.history <:+ (t w).2.shelf.history

instance isPreorder_history : IsPreorder World fun w w' => w.shelf.history <:+ w'.shelf.history where
  refl _ := List.suffix_rfl
  trans _ _ _ h k := h.trans k

theorem adds_writeText (l : Location) (document : Text) : (Cache.writeText l document).Adds := by
  intro w
  rcases Cache.writeText_cases l document w with ⟨f, h⟩ | ⟨_, h⟩ <;> simp only [h]
  · exact List.suffix_rfl
  · exact Cache.Shelf.history_put _ _

theorem adds_runOnce (r : Refresh) : r.runOnce.Adds := by
  rw [Refresh.runOnce_eq]
  have looked : Within (fun w w' : World => w.shelf.history <:+ w'.shelf.history) (Download.checked r.source) :=
    fun w => by simp only [(Download.checked_quiet r.source w).1, List.suffix_rfl]
  exact within_bind looked fun _ => within_bind (adds_writeText _ _) fun _ => within_pure _

end Act
end Untrack
