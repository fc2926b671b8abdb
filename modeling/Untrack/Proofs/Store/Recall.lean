/-
  Untrack.Proofs.Store.Recall — rules once handed out are handed out again, as the same edition, until the cache is
  changed or has become too old (`handed_out_until_changed`). Nothing is asked for and nothing is read anew.

  A store that hands out an edition remembers it for the time of its cache (`State.Remembers`). Whatever happens then
  either brings something to the cache's path or leaves memory alone (`State.Retains`): a download that fails remembers
  nothing, and to load the cache is to recall what is remembered of it.
-/

import Untrack.Proofs.Store.Escapes
import Untrack.Proofs.Store.Serving

namespace Untrack

namespace State

/-- The edition is remembered for the time that the cache has. -/
def Remembers (s : State) (e : Edition) : Prop :=
  ∃ t, s.memory.latest = some (e, some t) ∧ s.world.shelf.spot.time? = some t

/-- The path's history goes on, and as long as nothing came to the path, memory is left alone if it is of the cache. -/
structure Retains (s s' : State) : Prop where
  history : s.world.shelf.history <:+ s'.world.shelf.history
  memory : s'.world.shelf.history = s.world.shelf.history → ∀ e, s.Remembers e → s'.memory = s.memory

theorem Remembers.of_retains {s s' : State} {e : Edition} (h : s.Remembers e) (k : s.Retains s')
    (same : s'.world.shelf.history = s.world.shelf.history) : s'.Remembers e := by
  obtain ⟨t, latest, time⟩ := h
  refine ⟨t, ?_, ?_⟩
  · rw [k.memory same e ⟨t, latest, time⟩, latest]
  · rw [(List.cons.inj same).1, time]

theorem Retains.trans {a b c : State} (h : a.Retains b) (k : b.Retains c) : a.Retains c := by
  refine ⟨h.history.trans k.history, fun same e he => ?_⟩
  have first : b.world.shelf.history = a.world.shelf.history :=
    (same ▸ k.history).eq_of_length_le h.history.length_le
  rw [k.memory (same.trans first.symm) e (he.of_retains h first), h.memory first e he]

instance isPreorder_retains : IsPreorder State State.Retains where
  refl _ := ⟨List.suffix_rfl, fun _ _ _ => rfl⟩
  trans _ _ _ := .trans

theorem Retains.of_memory {s s' : State} (h : s.world.shelf.history <:+ s'.world.shelf.history)
    (same : s'.memory = s.memory) : s.Retains s' := ⟨h, fun _ _ _ => same⟩

/-- Something came to the path. -/
theorem Retains.of_put {s s' : State} {spot : Cache.Spot}
    (h : spot :: s.world.shelf.history <:+ s'.world.shelf.history) : s.Retains s' := by
  refine ⟨(List.suffix_cons _ _).trans h, fun same => ?_⟩
  have := h.length_le
  rw [same, List.length_cons] at this
  omega

/-- A download remembers what it hands out. -/
theorem Downloads.remembers {s s' : State} {e : Edition} (h : s.Downloads (.ok e, s')) : s'.Remembers e := by
  obtain ⟨w, _, ⟨f, h⟩ | ⟨document, rules, _, _, h⟩⟩ := h <;> cases h
  exact ⟨w.now, rfl, rfl⟩

end State

theorem Memory.recall?_of_latest {m : Memory} {e : Edition} {t : Int} (h : m.latest = some (e, some t)) :
    m.recall? (some t) = some e := by
  unfold Memory.recall?
  rw [h]
  simp

namespace Store

variable {st : Store} {s s' : State} {e : Edition}

/-! ## What is handed out is remembered -/

theorem recallOr_remembers {modified : Option Int} (current : s.world.shelf.spot.time? = modified)
    (h : st.recallOr modified s = (.ok e, s')) : s'.Remembers e := by
  rcases st.recallOr_cases modified s with ⟨e', hr, hc⟩ | ⟨f, hc⟩ | ⟨rules, held, hc⟩ <;> rw [hc] at h <;> cases h
  · obtain ⟨t, rfl, latest⟩ := recall?_eq_some hr
    exact ⟨t, latest, current⟩
  · obtain ⟨content, t, document, file, _⟩ := held
    have time : s.world.shelf.spot.time? = some t := by rw [file]; rfl
    exact ⟨t, congrArg (fun o => some (_, o)) (current.symm.trans time), time⟩

theorem get_remembers (h : st.get s = (.ok e, s')) : s'.Remembers e := by
  by_cases stat : s.world.shelf.spot = .blocked
  · have escaped : (st.get s).1 = .error _ := get_of_escapes (.pathBlocked stat)
    rw [h] at escaped
    cases escaped
  by_cases fresh : st.IsFresh s.world
  · rw [get_of_fresh stat fresh, load_run, modified?_of_stat stat] at h
    exact recallOr_remembers rfl h
  · rw [get_of_stale stat fresh] at h
    exact (h ▸ st.download_cases rfl s : s.Downloads (.ok e, s')).remembers

/-- The cache is recalled, with no need to read it, for the time of the edition remembered. -/
theorem recallOr_of_latest {t : Int} (h : s.memory.latest = some (e, some t)) :
    st.recallOr (some t) s = (.ok e, s) := by
  rw [recallOr, bind_run, memory]
  dsimp only
  rw [Memory.recall?_of_latest h]
  rfl

/-- With a fresh cache that it remembers an edition of, a store hands out this edition and does nothing else. -/
theorem get_of_remembers (h : s.Remembers e) (fresh : st.IsFresh s.world) : st.get s = (.ok e, s) := by
  obtain ⟨t, latest, time⟩ := h
  have stat : s.world.shelf.spot ≠ .blocked := fun blocked => by
    rw [blocked] at time
    cases time
  rw [get_of_fresh stat fresh, load_run, modified?_of_stat stat, time]
  exact recallOr_of_latest latest

/-! ## Memory is left alone -/

/-- Once a document is kept, only others can still bring something to the path. -/
theorem adopt_world {m : Meanwhile} {document : Text} {rules : Ruleset}
    (h : Cache.writeText st.location document s.world = (.ok (), s.world.keeping document)) :
    (st.adopt m document rules s).2.world = (othersWrite m.writtenAfterWriting (s.world.keeping document)).2 := by
  have others : ∀ w, othersWrite m.writtenAfterWriting w = (.ok (), (othersWrite m.writtenAfterWriting w).2) :=
    fun _ => rfl
  rw [adopt, bind_run, lift_run, h]
  dsimp only
  rw [bind_run, lift_run, others]
  dsimp only
  rw [bind_run, lift_run, Cache.modified?, Act.ofShelf_run]
  rcases (othersWrite m.writtenAfterWriting (s.world.keeping document)).2.shelf.modified? st.location with _ | _ <;> rfl

/-- To adopt a document either fails and changes nothing, or brings it to the path, whatever others write after it. -/
theorem adopt_retains (m : Meanwhile) (document : Text) (rules : Ruleset) :
    Within State.Retains (st.adopt m document rules) := by
  intro s
  rcases Cache.writeText_cases st.location document s.world with ⟨f, h⟩ | ⟨_, h⟩
  · have failed : st.adopt m document rules s = (.error f, s) := by
      rw [adopt]
      refine bind_of_error ?_
      rw [lift_run, h]
    rw [failed]
    exact refl_of State.Retains s
  · have came : .file (Bytes.Utf8.encode document) s.world.now :: s.world.shelf.history <:+
        (st.adopt m document rules s).2.world.shelf.history := by
      rw [adopt_world h]
      exact history_othersWrite m.writtenAfterWriting (s.world.keeping document)
    exact .of_put came

theorem download_retains (m : Meanwhile) : Within State.Retains (st.download m) := by
  rw [download_eq]
  refine within_bind (fun s => ?_) fun _ => adopt_retains _ _ _
  refine .of_memory ?_ rfl
  simp only [lift_run, (Download.checked_quiet st.source s.world).1, List.suffix_rfl]

theorem refresh_retains : Within State.Retains st.refresh := download_retains .nothing

theorem recallOr_retains (modified : Option Int) (current : s.world.shelf.spot.time? = modified) :
    s.Retains (st.recallOr modified s).2 := by
  refine ⟨by simp only [recallOr_world, List.suffix_rfl], ?_⟩
  rintro - e ⟨t, latest, time⟩
  rw [← current, time, recallOr_of_latest latest]

/-- A cache that is loaded is recalled, unless another completed a download since it was asked for its time; then
something came to the path. -/
theorem load_retains (m : Meanwhile) : Within State.Retains (st.load m) := by
  intro s
  rw [load_run]
  rcases h : s.world.shelf.modified? st.location with f | modified
  · exact refl_of State.Retains s
  have current : s.world.shelf.spot.time? = modified := (Cache.Shelf.modified?_ok h).symm
  cases m.downloadedAfterAsking with
  | false => exact recallOr_retains modified current
  | true =>
    have refreshed : s.Retains (st.refresh s).2 := refresh_retains s
    obtain ⟨w, hw, ⟨f, hd⟩ | ⟨document, rules, _, _, hd⟩⟩ := st.refresh_cases s
    · rw [hd] at refreshed ⊢
      exact refreshed
    · rw [hd]
      dsimp only
      rw [if_pos rfl]
      have came memory : .file (Bytes.Utf8.encode document) w.now :: s.world.shelf.history <:+
          (st.recallOr modified ⟨w.keeping document, memory⟩).2.world.shelf.history := by
        rw [recallOr_world, ← hw]
        exact List.suffix_rfl
      exact .of_put (came _)

theorem getAmid_retains (m : Meanwhile) : Within State.Retains (st.getAmid m) :=
  getAmid_within (fun _ _ h _ => .of_memory (h.shelf ▸ List.suffix_rfl) rfl)
    (fun w _ => .of_memory (history_othersWrite m.writtenAtLock w) rfl) (download_retains m) (load_retains m)

/-! ## Runs -/

/-- Each step leaves memory alone, if it is of the cache, unless it brings something to the path. -/
theorem take_retains (st : Store) (step : Step) : Within State.Retains (st.take step) := by
  have adds : ∀ {w w' : World}, w.shelf.history <:+ w'.shelf.history → w.Carries State.Retains w' := fun h _ =>
    .of_memory h rfl
  refine take_within st (fun w w' h => adds (h.shelf ▸ List.suffix_rfl)) (fun m _ => getAmid_retains m) refresh_retains
    (fun w => adds (Act.adds_runOnce _ w)) (fun _ _ w => adds (Act.adds_writeText _ _ w))
    fun c _ w => adds (c.history_apply w)

/-- An edition that the store has handed out, asked for rules or told to download them, it hands out whenever it is
asked again, without a request and without reading anything, as long as nothing has come to the cache's path and the
cache is no older than allowed. What else happened in between makes no difference: time that went by, other answers of
the server, URLs and messages that were cleaned, downloads and rounds of the refresh loop that failed. -/
theorem handed_out_until_changed (st : Store) {s s' : State} {e : Edition}
    (handed : st.get s = (.ok e, s') ∨ st.refresh s = (.ok e, s')) (steps : List Step)
    (unchanged : (st.run steps s').2.world.shelf.history = s'.world.shelf.history)
    (fresh : st.IsFresh (st.run steps s').2.world) :
    st.get (st.run steps s').2 = (.ok e, (st.run steps s').2) := by
  have remembered : s'.Remembers e := by
    rcases handed with h | h
    · exact get_remembers h
    · exact (h ▸ st.refresh_cases s : s.Downloads (.ok e, s')).remembers
  have retained : s'.Retains (st.run steps s').2 := st.run_within (fun step _ => st.take_retains step) s'
  exact get_of_remembers (remembered.of_retains retained unchanged) fresh

/-- A server that has rules to give once. -/
def givenOnce : State := .start 10 ⟨[.reply 200 oneProvider, .failure "no route".toList], []⟩

/-- A minute with a download and a round that fail, and a link that is cleaned. -/
def fruitless : List Step :=
  [.change (.advance 30), .refresh, .runRounds 1, .clean .standard "http://shop.example/".toList, .get .nothing,
    .change (.advance 30)]

/-- After the minute the first edition is handed out still. -/
theorem first_edition_handed_out :
    ∃ e s', patient.get givenOnce = (.ok e, s') ∧ e.serial = 0 ∧
      ((patient.run fruitless s').1.map (·.outcome.isOk)) = [true, false, true, true, true, true] ∧
      (patient.run fruitless s').2.world.shelf.history = s'.world.shelf.history ∧
      patient.IsFresh (patient.run fruitless s').2.world ∧
      patient.get (patient.run fruitless s').2 = (.ok e, (patient.run fruitless s').2) := by
  have serial : (patient.get givenOnce).1.map (·.serial) = .ok 0 := by decide +kernel
  have outcomes : ((patient.run fruitless (patient.get givenOnce).2).1.map (·.outcome.isOk)) =
    [true, false, true, true, true, true] := by decide +kernel
  have unchanged : (patient.run fruitless (patient.get givenOnce).2).2.world.shelf.history =
    (patient.get givenOnce).2.world.shelf.history := by decide +kernel
  have modified : (patient.run fruitless (patient.get givenOnce).2).2.world.shelf.spot.time? = some 10 := by
    decide +kernel
  have now : (patient.run fruitless (patient.get givenOnce).2).2.world.now = 70 := by decide +kernel
  rcases handed : patient.get givenOnce with ⟨_ | e, s'⟩ <;>
    rw [handed] at serial outcomes unchanged modified now
  · cases serial
  · have fresh : patient.IsFresh (patient.run fruitless s').2.world := ⟨10, modified, by rw [now]; decide⟩
    exact ⟨e, s', rfl, Except.ok.inj serial, outcomes, unchanged, fresh,
      handed_out_until_changed patient (.inl handed) fruitless unchanged fresh⟩

end Store
end Untrack
