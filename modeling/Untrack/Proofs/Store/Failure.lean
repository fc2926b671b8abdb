/-
  Untrack.Proofs.Store.Failure — a job that fails has done nothing (`fault_leaves_state`). Whatever goes wrong, in
  fetching, checking, reading or keeping rules, and whether the store was asked for rules, told to download them,
  a round of the refresh loop was run, or a document was put in the cache: what stands at the cache's path, the
  drafts beside it and what the store remembers are as they were.

  The order of a job's phases carries this. All that comes before a document is kept only looks (`Act.Quiet`),
  keeping it succeeds or changes nothing, and nothing after it can fail (`download_cases`).
-/

import Untrack.Proofs.Except
import Untrack.Proofs.Store.Phases

namespace Untrack

/-- The cache, the drafts beside it and what the store remembers are as they were. -/
def State.Untouched (before after : State) : Prop :=
  after.world.shelf = before.world.shelf ∧ after.memory = before.memory

theorem State.Untouched.refl (s : State) : s.Untouched s := ⟨rfl, rfl⟩

theorem State.Downloads.untouched {s s' : State} {f : Fault} (h : s.Downloads (.error f, s')) : s.Untouched s' := by
  obtain ⟨w, hw, ⟨g, hg⟩ | ⟨_, _, _, _, hg⟩⟩ := h <;> cases hg
  exact ⟨hw, rfl⟩

theorem Cache.writeText_error {l : Location} {document : Text} {f : Untrack.Fault} {w w' : World}
    (h : Cache.writeText l document w = (.error f, w')) : w' = w := by
  rcases Cache.writeText_cases l document w with ⟨g, hg⟩ | ⟨_, hg⟩ <;> rw [hg] at h <;> cases h
  rfl

namespace Store

theorem recallOr_error {st : Store} {t : Option Int} {f : Fault} {s s' : State}
    (h : st.recallOr t s = (.error f, s')) : s' = s := by
  rcases st.recallOr_cases t s with ⟨e, _, hc⟩ | ⟨g, hc⟩ | ⟨rules, _, hc⟩ <;> rw [hc] at h <;> cases h
  rfl

theorem load_error {st : Store} {f : Fault} {s s' : State} (h : st.load .nothing s = (.error f, s')) :
    s' = s := by
  rw [load_run] at h
  rcases hm : s.world.shelf.modified? st.location with g | modified <;> simp only [hm] at h
  · cases h
    rfl
  · exact recallOr_error h

theorem get_error {st : Store} {f : Fault} {s s' : State} (h : st.get s = (.error f, s')) : s.Untouched s' := by
  have h : st.getAmid .nothing s = (.error f, s') := h
  -- with nobody else at work, the state in which the lock is taken is the first one
  have lock : s.atLock .nothing = s := rfl
  rw [getAmid_run, lock] at h
  rcases hs : (st.isStale s.world).1 with g | _ | _ <;> simp only [hs] at h
  · cases h
    exact .refl s
  · rw [load_error h]
    exact .refl s
  · have downloads := st.download_cases (m := .nothing) rfl s
    rw [h] at downloads
    exact downloads.untouched

end Store

theorem Refresh.runOnce_error {r : Refresh} {f : Fault} {w w' : World} (h : r.runOnce w = (.error f, w')) :
    w'.shelf = w.shelf := by
  rw [runOnce_eq] at h
  rcases bind_error h with h | ⟨⟨document, rules⟩, m, hm, h⟩
  · have := (Download.checked_quiet r.source w).1
    rwa [h] at this
  have looked := (Download.checked_quiet r.source w).1
  rw [hm] at looked
  rcases bind_error h with h | ⟨_, m', _, h⟩
  · rwa [Cache.writeText_error h]
  · cases h

namespace Store

/-- A job that fails leaves the cache, the drafts beside it and what the store remembers as they were: the store
asked for rules, its download, a round of its refresh loop, and a document put in the cache. -/
theorem fault_leaves_state (st : Store) (s : State) (document : Text) (f : Fault) :
    ((st.get s).1 = .error f → s.Untouched (st.get s).2) ∧
      ((st.refresh s).1 = .error f → s.Untouched (st.refresh s).2) ∧
      ((Job.ofAct st.refresher.runOnce s).1 = .error f → s.Untouched (Job.ofAct st.refresher.runOnce s).2) ∧
      ((Job.ofAct (Cache.writeText st.location document) s).1 = .error f →
        s.Untouched (Job.ofAct (Cache.writeText st.location document) s).2) := by
  refine ⟨?_, ?_, ?_, ?_⟩ <;> intro h
  · have failed : st.get s = (.error f, (st.get s).2) := Prod.ext h rfl
    exact get_error failed
  · have failed : st.refresh s = (.error f, (st.refresh s).2) := Prod.ext h rfl
    have downloads := st.refresh_cases s
    rw [failed] at downloads
    exact downloads.untouched
  · have failed : st.refresher.runOnce s.world = (.error f, (st.refresher.runOnce s.world).2) := Prod.ext h rfl
    exact ⟨Refresh.runOnce_error failed, rfl⟩
  · have failed : Cache.writeText st.location document s.world =
        (.error f, (Cache.writeText st.location document s.world).2) := Prod.ext h rfl
    exact ⟨congrArg World.shelf (Cache.writeText_error failed), rfl⟩

/-- A store in a folder of its own. -/
def shelved : Store := ⟨⟨"http://host/rules".toList, "http://host/hash".toList, false⟩,
  ⟨"cache/rules".toList, "cache".toList⟩, ⟨0⟩⟩

/-- A folder stands at the cache's path, a draft that is not ours beside it; rules without providers are remembered,
and the server has such rules. -/
def atFolder : State where
  world := { World.start 10 ⟨[.reply 200 (Bytes.Utf8.encode "\x7b\"providers\":\x7b\x7d\x7d".toList)], []⟩ with
    shelf := ⟨.folder 3, [[0]], []⟩ }
  memory := ⟨some (⟨0, ⟨[]⟩⟩, some 2), 1⟩

/-- The last thing that can go wrong: rules that were fetched and read cannot take the place of a folder. -/
theorem atFolder_fault :
    let f := Fault.fetch (.unwritable "cache/rules".toList
      (.replacesFolder "cache/<tmp>".toList "cache/rules".toList))
    ((shelved.get atFolder).1 = .error f ∧ atFolder.Untouched (shelved.get atFolder).2) ∧
      ((shelved.refresh atFolder).1 = .error f ∧
        atFolder.Untouched (shelved.refresh atFolder).2) ∧
      ((Job.ofAct shelved.refresher.runOnce atFolder).1 = .error f ∧
        atFolder.Untouched (Job.ofAct shelved.refresher.runOnce atFolder).2) ∧
      (Job.ofAct (Cache.writeText shelved.location ['x']) atFolder).1 = .error f ∧
        atFolder.Untouched (Job.ofAct (Cache.writeText shelved.location ['x']) atFolder).2 := by
  intro f
  obtain ⟨get, refresh, round, write⟩ := fault_leaves_state shelved atFolder ['x'] f
  have hget : (shelved.get atFolder).1 = .error f := by decide +kernel
  have hrefresh : (shelved.refresh atFolder).1 = .error f := by decide +kernel
  have hround : (Job.ofAct shelved.refresher.runOnce atFolder).1 = .error f := by decide +kernel
  have hwrite : (Job.ofAct (Cache.writeText shelved.location ['x']) atFolder).1 = .error f := by decide +kernel
  exact ⟨⟨hget, get hget⟩, ⟨hrefresh, refresh hrefresh⟩, ⟨hround, round hround⟩, hwrite, write hwrite⟩

end Store
end Untrack
