/-
  Untrack.Proofs.Store.Agreement — a round of the refresh loop does what a download of the store does
  (`runOnce_agrees`). The two are written apart: the store waits for whole responses and remembers the rules that it
  brought, a round fetches in a session and gives a summary. Both check a document (`Download.checked`) and keep it
  (`refresh_run`, `runOnce_run`); after that the store alone does more, and nothing of it can fail.
-/

import Untrack.Proofs.Store.Freshness

namespace Untrack

/-- What a round tells of rules that a download brought. -/
def Refresh.Summary.ofEdition (l : Location) (e : Edition) : Refresh.Summary := ⟨e.rules.size, l.path⟩

/-- A round, in terms of its two phases. -/
theorem Refresh.runOnce_run (r : Refresh) (w : World) :
    r.runOnce w = match Download.checked r.source w with
      | (.error f, w) => (.error f, w)
      | (.ok (document, rules), w) =>
        ((Cache.writeText r.location document w).1.map fun _ => ⟨rules.size, r.location.path⟩,
          (Cache.writeText r.location document w).2) := by
  rw [runOnce_eq, bind_run]
  rcases Download.checked r.source w with ⟨f | ⟨document, rules⟩, w⟩
  · rfl
  dsimp only
  rw [bind_run]
  rcases Cache.writeText r.location document w with ⟨f | ⟨⟩, w'⟩ <;> rfl

namespace Store

/-- To adopt a document is to keep it; the edition that comes of it has the rules at hand. -/
theorem adopt_run (st : Store) (document : Text) (rules : Ruleset) (s : State) :
    ∃ memory, st.adopt .nothing document rules s =
      ((Cache.writeText st.location document s.world).1.map fun _ => ⟨s.memory.editions, rules⟩,
        ⟨(Cache.writeText st.location document s.world).2, memory⟩) := by
  rw [adopt, bind_run, lift_run]
  rcases Cache.writeText_cases st.location document s.world with ⟨f, h⟩ | ⟨_, h⟩ <;> rw [h]
  · exact ⟨s.memory, rfl⟩
  · exact ⟨⟨some (⟨s.memory.editions, rules⟩, some s.world.now), s.memory.editions + 1⟩, rfl⟩

/-- A download with nobody else at work, in terms of its two phases. -/
theorem refresh_run (st : Store) (s : State) :
    ∃ memory, st.refresh s = match Download.checked st.source s.world with
      | (.error f, w) => (.error f, ⟨w, memory⟩)
      | (.ok (document, rules), w) =>
        ((Cache.writeText st.location document w).1.map fun _ => ⟨s.memory.editions, rules⟩,
          ⟨(Cache.writeText st.location document w).2, memory⟩) := by
  have start : st.refresh s = st.download .nothing s := rfl
  rw [start]
  rcases h : Download.checked st.source s.world with ⟨f | ⟨document, rules⟩, w⟩
  · have refused : (Download.checked st.source s.world).1 = .error f := by rw [h]
    rw [download_of_refused refused, checkedState, h]
    exact ⟨s.memory, rfl⟩
  · have checked : (Download.checked st.source s.world).1 = .ok (document, rules) := by rw [h]
    rw [download_of_checked checked, checkedState, h]
    exact st.adopt_run document rules ⟨w, s.memory⟩

/-- In whatever world they begin, and however the server answers: a round of the refresh loop asks for the same things
in the same order as a download of the store and leaves the same world behind, the cache with its time and the server
included. It succeeds if the download does, and then counts the providers of the rules that were downloaded; if not,
both fail with the same fault. What the store remembers has no part in it. -/
theorem runOnce_agrees (st : Store) (s : State) :
    st.refresher.runOnce s.world =
      ((st.refresh s).1.map (.ofEdition st.location), (st.refresh s).2.world) := by
  obtain ⟨memory, refreshed⟩ := st.refresh_run s
  have source : st.refresher.source = st.source := rfl
  have location : st.refresher.location = st.location := rfl
  rw [refreshed, Refresh.runOnce_run, source, location]
  rcases Download.checked st.source s.world with ⟨f | ⟨document, rules⟩, w⟩
  · rfl
  · dsimp only
    rcases Cache.writeText st.location document w with ⟨f | ⟨⟩, w'⟩ <;> rfl

end Store
end Untrack
