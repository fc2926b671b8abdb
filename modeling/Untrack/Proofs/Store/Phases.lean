/-
  Untrack.Proofs.Store.Phases — what the phases of a job of a store do to a state. A download changes neither cache
  nor memory, or keeps a document and remembers its rules for the present time (`download_cases`). The cache's rules
  are handed out from memory, or not at all, or read from the document in the cache and remembered
  (`recallOr_cases`). A store asked for rules does one of these, before or after others wrote (`getAmid_run`).
-/

import Untrack.Proofs.World.Cache
import Untrack.Proofs.World.Download
import Untrack.Store.Clean

namespace Untrack

/-- The state in which a new edition is remembered for a time of the cache. -/
def State.remembering (rules : Ruleset) (modified : Option Int) (s : State) : State :=
  { s with memory := ⟨some (⟨s.memory.editions, rules⟩, modified), s.memory.editions + 1⟩ }

/-- A download fails and changes neither cache nor memory, or keeps a document and remembers the rules in it. -/
def State.Downloads (s : State) (r : Except Fault Edition × State) : Prop :=
  ∃ w, w.shelf = s.world.shelf ∧
    ((∃ f, r = (.error f, { s with world := w })) ∨
      ∃ document rules, Ruleset.ofText document = .ok rules ∧ (∀ t, w.shelf.spot ≠ .folder t) ∧
        r = (.ok ⟨s.memory.editions, rules⟩,
          { s with world := w.keeping document }.remembering rules (some w.now)))

/-- The state after others wrote the cache as the lock was taken. -/
def State.atLock (m : Meanwhile) (s : State) : State :=
  { s with world := (Store.othersWrite m.writtenAtLock s.world).2 }

namespace Store

theorem isStale_run (st : Store) (w : World) :
    st.isStale w = (((w.shelf.modified? st.location).mapError .cache).map (Cache.isOutdated st.maxAge w.now), w) := by
  show (Act.ofShelf (·.modified? st.location) >>= fun t => pure (Cache.isOutdated st.maxAge w.now t) : Act Bool) w = _
  rw [bind_run, Act.ofShelf_run]
  rcases w.shelf.modified? st.location with _ | _ <;> rfl

/-- Looking whether the cache is stale changes nothing. -/
theorem isStale_bind (st : Store) (k : Bool → Job α) (s : State) :
    ((liftM st.isStale : Job Bool) >>= k) s = match (st.isStale s.world).1 with
      | .ok b => k b s
      | .error f => (.error f, s) := by
  rw [bind_run, lift_run, isStale_run]
  rcases (s.world.shelf.modified? st.location) with _ | _ <;> rfl

/-- Adopting a document either fails and changes nothing, or leaves the document in the cache and its rules in
memory under the present time. -/
theorem adopt_cases (st : Store) {m : Meanwhile} (hm : m.writtenAfterWriting = none) (document : Text)
    (rules : Ruleset) (s : State) :
    (∃ f, st.adopt m document rules s = (.error f, s)) ∨
      (∀ t, s.world.shelf.spot ≠ .folder t) ∧
        st.adopt m document rules s = (.ok ⟨s.memory.editions, rules⟩,
          { s with world := s.world.keeping document }.remembering rules (some s.world.now)) := by
  unfold adopt
  rw [hm]
  rcases Cache.writeText_cases st.location document s.world with ⟨f, h⟩ | ⟨free, h⟩
  · left
    refine ⟨f, bind_of_error ?_⟩
    rw [lift_run, h]
  · refine Or.inr ⟨free, ?_⟩
    have kept : (liftM (Cache.writeText st.location document) : Job Unit) s =
        (.ok (), { s with world := s.world.keeping document }) := by rw [lift_run, h]
    rw [bind_of_ok kept]
    rfl

theorem download_cases (st : Store) {m : Meanwhile} (hm : m.writtenAfterWriting = none) (s : State) :
    s.Downloads (st.download m s) := by
  rw [download_eq]
  rcases h : Download.checked st.source s.world with ⟨f | ⟨document, rules⟩, w⟩
  · have quiet := Download.checked_quiet st.source s.world
    rw [h] at quiet
    refine ⟨w, quiet.1, Or.inl ⟨f, bind_of_error ?_⟩⟩
    rw [lift_run, h]
  · have quiet := Download.checked_quiet st.source s.world
    rw [h] at quiet
    have start : (liftM (Download.checked st.source) : Job _) s = (.ok (document, rules), { s with world := w }) := by
      rw [lift_run, h]
    refine ⟨w, quiet.1, ?_⟩
    rw [bind_of_ok start]
    rcases st.adopt_cases hm document rules { s with world := w } with ⟨f, ha⟩ | ⟨free, ha⟩
    · exact Or.inl ⟨f, ha⟩
    · exact Or.inr ⟨document, rules, Download.checked_rules h, free, ha⟩

/-- With nobody else at work, taking the lock changes nothing. -/
theorem refresh_cases (st : Store) (s : State) : s.Downloads (st.refresh s) :=
  st.download_cases (m := .nothing) rfl s

/-- The rules in the cache, from memory if the edition remembered is of the cache modified at that time. -/
def recallOr (st : Store) (modified : Option Int) : Job Edition := do
  match (← memory).recall? modified with
  | some e => return e
  | none =>
    let document ← Cache.document st.location
    remember (← Ruleset.parse document) modified

/-- A cache that is loaded is asked for its time; then another may complete a download, and then the rules are
recalled for that time or read. -/
theorem load_run (st : Store) (m : Meanwhile) (s : State) :
    st.load m s = match s.world.shelf.modified? st.location with
      | .error f => (.error (.cache f), s)
      | .ok modified =>
        if m.downloadedAfterAsking then
          match st.refresh s with
          | (.error f, s') => (.error f, s')
          | (.ok _, s') => st.recallOr modified s'
        else st.recallOr modified s := by
  have start : st.load m = (liftM (Cache.modified? st.location) : Job _) >>= fun modified =>
      (if m.downloadedAfterAsking then discard st.refresh else pure ()) >>= fun _ => st.recallOr modified := by
    refine bind_congr fun modified => ?_
    cases m.downloadedAfterAsking with
    | false => rfl
    | true => rfl
  rw [start, bind_run, lift_run, Cache.modified?, Act.ofShelf_run]
  rcases s.world.shelf.modified? st.location with f | modified
  · rfl
  cases m.downloadedAfterAsking with
  | false => rfl
  | true =>
    show ((discard st.refresh : Job Unit) >>= fun _ => st.recallOr modified) s = _
    rw [bind_run, discard_run]
    rcases st.refresh s with ⟨f | e, s'⟩ <;> rfl

/-- A store asked for rules looks at the cache. If the cache is fresh it is loaded; if not, others may write it, it is
looked at again, and it is loaded or downloaded. -/
theorem getAmid_run (st : Store) (m : Meanwhile) (s : State) :
    st.getAmid m s = match (st.isStale s.world).1 with
      | .error f => (.error f, s)
      | .ok false => st.load m s
      | .ok true => match (st.isStale (s.atLock m).world).1 with
        | .error f => (.error f, s.atLock m)
        | .ok false => st.load m (s.atLock m)
        | .ok true => st.download m (s.atLock m) := by
  unfold getAmid
  rw [isStale_bind]
  rcases (st.isStale s.world).1 with f | _ | _
  · rfl
  · rfl
  have lock : (liftM (othersWrite m.writtenAtLock) : Job Unit) s = (.ok (), s.atLock m) := rfl
  show ((liftM (othersWrite m.writtenAtLock) : Job Unit) >>= fun _ =>
    (liftM st.isStale : Job Bool) >>= fun again => if again then st.download m else st.load m) s = _
  rw [bind_of_ok lock, isStale_bind]
  rcases (st.isStale (s.atLock m).world).1 with f | _ | _ <;> rfl

/-- The rules are remembered, or there are none to hand out, or they are read from the document in the cache. -/
theorem recallOr_cases (st : Store) (modified : Option Int) (s : State) :
    (∃ e, s.memory.recall? modified = some e ∧ st.recallOr modified s = (.ok e, s)) ∨
      (∃ f, st.recallOr modified s = (.error f, s)) ∨
      ∃ rules, s.world.shelf.Holds rules ∧
        st.recallOr modified s = (.ok ⟨s.memory.editions, rules⟩, s.remembering rules modified) := by
  have start : st.recallOr modified s = (match s.memory.recall? modified with
      | some e => return e
      | none => (liftM (Cache.document st.location) : Job _) >>= fun document =>
          (liftM (Ruleset.parse document) : Job _) >>= fun rules => remember rules modified : Job Edition) s := rfl
  rw [start]
  cases hr : s.memory.recall? modified with
  | some e => exact Or.inl ⟨e, rfl, rfl⟩
  | none =>
    right
    rcases Cache.document_cases st.location s.world with ⟨f, h⟩ | ⟨content, t, document, hs, hd, h⟩
    · left
      refine ⟨f, bind_of_error ?_⟩
      rw [lift_run, h]
    have found : (liftM (Cache.document st.location) : Job Text) s = (.ok document, s) := by rw [lift_run, h]
    dsimp only
    rw [bind_of_ok found]
    rcases hp : Ruleset.ofText document with f | rules
    · left
      refine ⟨.rules f, bind_of_error ?_⟩
      rw [lift_run, Ruleset.parse_run, hp]
      rfl
    · right
      have parsed : (liftM (Ruleset.parse document) : Job Ruleset) s = (.ok rules, s) := by
        rw [lift_run, Ruleset.parse_run, hp]
        rfl
      refine ⟨rules, ⟨content, t, document, hs, hd, hp⟩, ?_⟩
      rw [bind_of_ok parsed]
      rfl

theorem recallOr_world (st : Store) (modified : Option Int) (s : State) :
    (st.recallOr modified s).2.world = s.world := by
  rcases st.recallOr_cases modified s with ⟨e, _, h⟩ | ⟨f, h⟩ | ⟨rules, _, h⟩
  · exact congrArg (·.2.world) h
  · exact congrArg (·.2.world) h
  · exact congrArg (·.2.world) h

end Store
end Untrack
