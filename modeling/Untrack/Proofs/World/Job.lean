/-
  Untrack.Proofs.World.Job — jobs opened. A job takes a state to a value or a fault and to the state it leaves
  behind; `bind_run` says what one step of a job does and `bind_ok`, `bind_error` take a job that has ended apart
  at its first step. No proof beyond this module unfolds the monad. What each step of a job keeps to, a relation of the
  state before to the state after, the job keeps to (`Within`).

  Most acts only look at the world or ask the server (`World.Asked`): requests are added, and the cache and the clock
  are left alone, whether the act succeeds or not (`Quiet`).
-/

import Mathlib.Order.Defs.Unbundled
import Untrack.Store.Basic

namespace Untrack

variable {σ α β : Type}

/-! ## One step at a time -/

theorem bind_run (t : ExceptT Fault (StateM σ) α) (k : α → ExceptT Fault (StateM σ) β) (s : σ) :
    (t >>= k) s = match t s with
      | (.ok a, s') => k a s'
      | (.error f, s') => (.error f, s') := by
  show (match t s with | (r, s') => ExceptT.bindCont k r s') = _
  rcases t s with ⟨_ | _, _⟩ <;> rfl

theorem bind_of_ok {t : ExceptT Fault (StateM σ) α} {k : α → ExceptT Fault (StateM σ) β} {s s' : σ} {a : α}
    (h : t s = (.ok a, s')) : (t >>= k) s = k a s' := by rw [bind_run, h]

theorem bind_of_error {t : ExceptT Fault (StateM σ) α} {k : α → ExceptT Fault (StateM σ) β} {s s' : σ} {f : Fault}
    (h : t s = (.error f, s')) : (t >>= k) s = (.error f, s') := by rw [bind_run, h]

/-- A job that succeeded did so in its first step and then in the others. -/
theorem bind_ok {t : ExceptT Fault (StateM σ) α} {k : α → ExceptT Fault (StateM σ) β} {s s' : σ} {b : β}
    (h : (t >>= k) s = (.ok b, s')) : ∃ a m, t s = (.ok a, m) ∧ k a m = (.ok b, s') := by
  rw [bind_run] at h
  rcases ht : t s with ⟨f | a, m⟩ <;> rw [ht] at h
  · cases h
  · exact ⟨a, m, rfl, h⟩

/-- A job that failed did so in its first step or after it. -/
theorem bind_error {t : ExceptT Fault (StateM σ) α} {k : α → ExceptT Fault (StateM σ) β} {s s' : σ} {f : Fault}
    (h : (t >>= k) s = (.error f, s')) :
    t s = (.error f, s') ∨ ∃ a m, t s = (.ok a, m) ∧ k a m = (.error f, s') := by
  rw [bind_run] at h
  rcases ht : t s with ⟨e | a, m⟩ <;> rw [ht] at h
  · cases h; exact Or.inl rfl
  · exact Or.inr ⟨a, m, rfl, h⟩

theorem adapt_run (g : Fault → Fault) (t : ExceptT Fault (StateM σ) α) (s : σ) :
    (t.adapt g : ExceptT Fault (StateM σ) α) s = ((t s).1.mapError g, (t s).2) := rfl

theorem discard_run (t : ExceptT Fault (StateM σ) α) (s : σ) :
    (discard t : ExceptT Fault (StateM σ) Unit) s = ((t s).1.map fun _ => (), (t s).2) := by
  have start : (discard t : ExceptT Fault (StateM σ) Unit) = t >>= fun _ => pure () :=
    (congrFun (congrFun map_const ()) t).trans (map_eq_pure_bind _ t)
  rw [start, bind_run]
  rcases t s with ⟨_ | _, _⟩ <;> rfl

/-! ## From the state before to the state after -/

/-- Whatever the state and however the job ends, the state after is so related to the state before. -/
def Within (R : σ → σ → Prop) (t : ExceptT Fault (StateM σ) α) : Prop := ∀ s, R s (t s).2

section Within

variable {R : σ → σ → Prop} [IsPreorder σ R]

theorem within_pure (a : α) : Within R (pure a : ExceptT Fault (StateM σ) α) := fun s => refl_of R s

/-- What comes after the first step may count on how the first step ended. -/
theorem within_bind_of {t : ExceptT Fault (StateM σ) α} {k : α → ExceptT Fault (StateM σ) β} (ht : Within R t)
    (hk : ∀ a s s', t s = (.ok a, s') → R s' (k a s').2) : Within R (t >>= k) := by
  intro s
  rw [bind_run]
  rcases h : t s with ⟨f | a, m⟩
  · have := ht s
    rwa [h] at this
  · have := ht s
    rw [h] at this
    exact trans_of R this (hk a s m h)

theorem within_bind {t : ExceptT Fault (StateM σ) α} {k : α → ExceptT Fault (StateM σ) β} (ht : Within R t)
    (hk : ∀ a, Within R (k a)) : Within R (t >>= k) := within_bind_of ht fun a _ s' _ => hk a s'

theorem within_map (g : α → β) {t : ExceptT Fault (StateM σ) α} (ht : Within R t) : Within R (g <$> t) := by
  rw [map_eq_pure_bind]
  exact within_bind ht fun _ => within_pure _

end Within

/-! ## Acts as jobs -/

theorem lift_run (t : Act α) (s : State) :
    (liftM t : Job α) s = ((t s.world).1, { s with world := (t s.world).2 }) := rfl

theorem lift_ok {t : Act α} {s s' : State} {a : α} (h : (liftM t : Job α) s = (.ok a, s')) :
    t s.world = (.ok a, s'.world) := by
  rw [lift_run] at h
  obtain ⟨outcome, rfl⟩ := Prod.mk.inj h
  exact Prod.ext outcome rfl

theorem lift_bind (t : Act α) (k : α → Act β) :
    (liftM (t >>= k) : Job β) = (liftM t : Job α) >>= fun a => liftM (k a) := by
  funext s
  rw [bind_run, lift_run, lift_run, bind_run]
  rcases t s.world with ⟨_ | _, _⟩ <;> rfl

theorem lift_map (g : α → β) (t : Act α) : (liftM (g <$> t) : Job β) = g <$> (liftM t : Job α) := by
  rw [map_eq_pure_bind, map_eq_pure_bind, lift_bind]
  rfl

/-! ## Acts that only look -/

namespace Act

theorem ofExcept_run (r : Except Fault α) (w : World) : ofExcept r w = (r, w) := rfl

theorem ofShelf_run (f : Cache.Shelf → Except Cache.Fault α) (w : World) :
    ofShelf f w = ((f w.shelf).mapError .cache, w) := rfl

/-- The act leaves the cache and the clock alone. -/
def Quiet (t : Act α) : Prop := ∀ w, (t w).2.shelf = w.shelf ∧ (t w).2.now = w.now

end Act

theorem Ruleset.parse_run (document : Text) (w : World) :
    parse document w = ((ofText document).mapError .rules, w) := rfl

/-- The server was asked between two worlds, and nothing else happened. -/
structure World.Asked (w w' : World) : Prop where
  shelf : w'.shelf = w.shelf
  now : w'.now = w.now
  exchanges : w.exchanges <+: w'.exchanges

instance isPreorder_asked : IsPreorder World World.Asked where
  refl _ := ⟨rfl, rfl, List.prefix_rfl⟩
  trans _ _ _ h k := ⟨k.shelf.trans h.shelf, k.now.trans h.now, h.exchanges.trans k.exchanges⟩

namespace Act

theorem asked_ofExcept (r : Except Fault α) : Within World.Asked (ofExcept r) := fun w => refl_of World.Asked w

theorem asked_ofShelf (f : Cache.Shelf → Except Cache.Fault α) : Within World.Asked (ofShelf f) := fun w =>
  refl_of World.Asked w

theorem asked_fetch (url : Text) : Within World.Asked (Download.fetch url) := fun _ =>
  ⟨rfl, rfl, List.prefix_append _ _⟩

/-- An act that only asks the server leaves the cache and the clock alone. -/
theorem quiet_of_asked {t : Act α} (h : Within World.Asked t) : t.Quiet := fun w => ⟨(h w).shelf, (h w).now⟩

end Act

theorem Ruleset.asked_parse (document : Text) : Within World.Asked (parse document) := Act.asked_ofExcept _

end Untrack
