/-
  Untrack.Proofs.Store.Steps — what the steps of a store's life are made of. A step keeps to a relation of the state
  before to the state after if a few jobs do: asking the server, asking the store for rules, its download, a round of
  its refresh loop, a document put in the cache, and a change of the world (`take_within`). So does then a run
  (`run_within`). The relation is any preorder; what a proof about runs has to say is said of those jobs.
-/

import Untrack.Proofs.Store.Phases
import Untrack.Store.Run

namespace Untrack

variable {σ α : Type}

/-! ## Jobs made of one job -/

section Within

variable {R : σ → σ → Prop} [IsPreorder σ R]

/-- A message is cleaned with rules that are asked for once or not at all. -/
theorem Message.clean_within {t : ExceptT Fault (StateM σ) Ruleset} (h : Within R t) (s : Sanitizer) (message : Text) :
    Within R (Message.clean t s message) := by
  unfold Message.clean
  split
  · exact within_pure _
  · exact within_bind h fun _ => within_pure _

end Within

namespace Refresh

variable {R : World → World → Prop} [IsPreorder World R] {r : Refresh}

theorem round_within (h : Within R r.runOnce) : Within R r.round := by
  have observed : Within R (observe r.runOnce) := fun w => h w
  refine within_bind observed fun outcome => ?_
  cases outcome with
  | ok s => exact within_pure _
  | error f =>
    dsimp only
    split
    · exact within_pure _
    · exact fun w => refl_of R w

/-- However many rounds: induction on their number. -/
theorem runRounds_within (h : Within R r.runOnce) (n : Nat) : Within R (r.runRounds n) := by
  induction n with
  | zero => exact within_pure _
  | succ n ih => exact within_bind (round_within h) fun _ => within_bind ih fun _ => within_pure _

end Refresh

/-! ## Looking at the cache -/

theorem Act.asked_readText (l : Location) : Within World.Asked (Cache.readText l) :=
  within_bind (asked_ofShelf _) fun _ => asked_ofExcept _

theorem Act.asked_isStaleAt (l : Location) (maxAge : Duration) (now : Int) :
    Within World.Asked (Cache.isStaleAt l maxAge now) :=
  within_bind (asked_ofShelf _) fun _ => within_pure _

theorem Act.asked_isStale (l : Location) (maxAge : Duration) : Within World.Asked (Cache.isStale l maxAge) := fun w =>
  asked_isStaleAt l maxAge w.now w

/-! ## Steps and runs -/

variable {R : State → State → Prop}

/-- Whatever the store remembers, the states with these worlds are so related. -/
def World.Carries (R : State → State → Prop) (w w' : World) : Prop := ∀ m, R ⟨w, m⟩ ⟨w', m⟩

instance isPreorder_carries [IsPreorder State R] : IsPreorder World (World.Carries R) where
  refl _ _ := refl_of R _
  trans _ _ _ h k m := trans_of R (h m) (k m)

theorem within_lift {t : Act α} (h : Within (World.Carries R) t) : Within R (liftM t : Job α) := fun s =>
  h s.world s.memory

variable [IsPreorder State R]

namespace Store

/-- The cache is loaded by asking for its time, waiting for a download of another, if there is one, and recalling the
rules or reading them. -/
theorem load_within {st : Store} {m : Meanwhile} (asked : ∀ w w' : World, w.Asked w' → w.Carries R w')
    (refresh : Within R st.refresh) (recalled : ∀ modified, Within R (st.recallOr modified)) : Within R (st.load m) := by
  refine within_bind (within_lift fun w => asked _ _ (Act.asked_ofShelf _ w)) fun modified => ?_
  split
  · have others : Within R (discard st.refresh : Job Unit) := fun s => by
      rw [discard_run]
      exact refresh s
    exact within_bind others fun _ => recalled modified
  · exact recalled modified

/-- Asked for rules, a store loads the cache or downloads; others may write before it does. -/
theorem getAmid_within {st : Store} {m : Meanwhile} (asked : ∀ w w' : World, w.Asked w' → w.Carries R w')
    (lock : Within (World.Carries R) (othersWrite m.writtenAtLock)) (download : Within R (st.download m))
    (load : Within R (st.load m)) : Within R (st.getAmid m) := by
  have stale : Within R (liftM st.isStale : Job Bool) := within_lift fun w => asked _ _ (Act.asked_isStale _ _ w)
  refine within_bind stale fun first => ?_
  split
  · refine within_bind (within_lift lock) fun _ => within_bind stale fun again => ?_
    split
    · exact download
    · exact load
  · exact load

/-- Each step keeps to a relation that the jobs it is made of keep to. A store is asked for rules with nobody else at
work, except by the step that says otherwise. -/
theorem take_within (st : Store) {step : Step} (asked : ∀ w w' : World, w.Asked w' → w.Carries R w')
    (get : ∀ m, step = .get m ∨ m = .nothing → Within R (st.getAmid m)) (refresh : Within R st.refresh)
    (once : Within (World.Carries R) st.refresher.runOnce)
    (put : ∀ document, step = .put document → Within (World.Carries R) (Cache.writeText st.location document))
    (change : ∀ c, step = .change c → ∀ w : World, w.Carries R (c.apply w)) : Within R (st.take step) := by
  have looks : ∀ {α : Type} {t : Act α}, Within World.Asked t → Within R (liftM t : Job α) := fun h =>
    within_lift fun w => asked _ _ (h w)
  have got : Within R st.get := get .nothing (Or.inr rfl)
  cases step with
  | get m => exact within_bind (get m (Or.inl rfl)) fun _ => within_pure _
  | refresh => exact within_bind refresh fun _ => within_pure _
  | runOnce => exact within_bind (within_lift once) fun _ => within_pure _
  | runRounds n => exact within_bind (within_lift (Refresh.runRounds_within once n)) fun _ => within_pure _
  | clean s url =>
    refine within_bind (within_bind got fun _ => looks (Act.asked_ofExcept _)) fun _ => within_pure _
  | message s text =>
    refine within_bind (within_bind (Message.clean_within (within_map _ got) s text) fun _ => ?_) fun _ => within_pure _
    exact looks (Act.asked_ofExcept _)
  | fetchRules => exact within_bind (looks (Act.asked_fetch _)) fun _ => within_pure _
  | fetchHash =>
    exact within_bind (looks (within_bind (Act.asked_fetch _) fun _ => within_pure _)) fun _ => within_pure _
  | put document => exact within_bind (within_lift (put document rfl)) fun _ => within_pure _
  | read => exact within_bind (looks (Act.asked_readText _)) fun _ => within_pure _
  | present =>
    have present : Within World.Asked Cache.exists? := fun w => refl_of World.Asked w
    exact within_bind (looks present) fun _ => within_pure _
  | modified => exact within_bind (looks (Act.asked_ofShelf _)) fun _ => within_pure _
  | stale maxAge now =>
    have stale : Within World.Asked (st.isStaleAt maxAge now) := by
      cases now with
      | some now => exact Act.asked_isStaleAt _ _ _
      | none => exact Act.asked_isStale _ _
    exact within_bind (looks stale) fun _ => within_pure _
  | change c => exact fun s => change c rfl s.world s.memory

/-- A run keeps to what its steps keep to. -/
theorem run_within (st : Store) {steps : List Step} (h : ∀ step ∈ steps, Within R (st.take step)) (s : State) :
    R s (st.run steps s).2 := by
  induction steps generalizing s with
  | nil => exact refl_of R s
  | cons step steps ih =>
    exact trans_of R (h step List.mem_cons_self s) (ih (fun step hs => h step (List.mem_cons_of_mem _ hs)) _)

end Store
end Untrack
