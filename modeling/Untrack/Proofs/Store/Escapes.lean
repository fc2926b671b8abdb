/-
  Untrack.Proofs.Store.Escapes — what a store that is asked for rules fails with. Most of its faults are foreseen, as
  faults of fetching or of the rules. Three are not (`Escapes`), and which of them a state holds can be told before the
  store is asked (`get_escapes_iff`): the path of the cache leads through a file, so that its time cannot be asked for;
  the cache is fresh but no UTF-8; or the document that is read runs into a limit that is not reported.

  A document is read only if it is in a fresh cache whose rules are not remembered, or if a download brought it and its
  published hash did not refuse it (`Reads`). So rules that are handed out were remembered or read (`get_ok_cases`).
-/

import Untrack.Proofs.Store.Freshness

namespace Untrack

/-- The rules response is this body, which is this document, and if the source is verified the hash response is its
digest. -/
structure Source.Admits (s : Source) (w : World) (body : Bytes) (document : Text) : Prop where
  brought : (s.rulesResponse w).Brings body document
  hash : s.verifies = true → ∃ published t, (s.hashResponse w).Brings published t ∧
    Text.lower (Text.strip t) = Bytes.sha256 body

/-! ## What a download is refused for -/

namespace Download

variable {s : Source} {w : World} {body : Bytes} {document : Text}

/-- A document that is admitted only has to be read. -/
theorem checked_of_admits (h : s.Admits w body document) :
    (checked s w).1 = ((Ruleset.ofText document).mapError .rules).map (document, ·) := by
  have fetched : textOf s.rulesUrl (s.rulesResponse w) = .ok document := textOf_ok_iff.mpr ⟨body, h.brought⟩
  have read : (do
      let rules ← (Ruleset.ofText document).mapError Fault.rules
      return (document, rules)) = ((Ruleset.ofText document).mapError .rules).map (document, ·) := by
    rcases Ruleset.ofText document with _ | _ <;> rfl
  rw [checked_run]
  dsimp only
  rw [fetched, ← read]
  by_cases hv : s.verifies = true
  · obtain ⟨published, t, hash, same⟩ := h.hash hv
    have hashed : textOf s.hashUrl (s.hashResponse w) = .ok t := textOf_ok_iff.mpr ⟨published, hash⟩
    have verified : verify document (plainHash t) = .ok () := by
      rw [verify_ok_iff, hashOf, h.brought.encode]
      exact same.symm
    simp only [hv, if_true, hashed, ok_mapError]
    show ((verify document (plainHash t)).mapError Fault.fetch >>= _) = _
    rw [verified]
    rfl
  · simp only [hv, Bool.false_eq_true, if_false]
    rfl

/-- A download is refused while it is fetched, or brings a document that is admitted. -/
theorem checked_cases (s : Source) (w : World) :
    (∃ f, (checked s w).1 = .error (.fetch f)) ∨ ∃ body document, s.Admits w body document := by
  rw [checked_run]
  rcases hd : textOf s.rulesUrl (s.rulesResponse w) with f | document
  · exact Or.inl ⟨f, rfl⟩
  obtain ⟨body, brought⟩ := textOf_ok_iff.mp hd
  by_cases hv : s.verifies = true
  · simp only [hv, if_true]
    rcases ht : textOf s.hashUrl (s.hashResponse w) with f | t
    · exact Or.inl ⟨f, rfl⟩
    rcases hf : verify document (plainHash t) with f | ⟨⟩
    · refine Or.inl ⟨f, ?_⟩
      simp only [ok_mapError]
      show ((verify document (plainHash t)).mapError Fault.fetch >>= _) = _
      rw [hf]
      rfl
    · obtain ⟨published, hash⟩ := textOf_ok_iff.mp ht
      refine Or.inr ⟨body, document, brought, fun _ => ⟨published, t, hash, ?_⟩⟩
      rw [← brought.encode]
      exact (verify_ok_iff.mp hf).symm
  · exact Or.inr ⟨body, document, brought, fun h => absurd h hv⟩

end Download

namespace Store

variable {st : Store} {s : State} {f : Fault}

/-- The document that is read when the store is asked for rules. -/
inductive Reads (st : Store) (s : State) : Text → Prop
  | kept {content : Bytes} {modified : Int} {document : Text} : s.world.shelf.spot = .file content modified →
      st.IsFresh s.world → s.memory.recall? (some modified) = none → Bytes.Utf8.decode content = .ok document →
      Reads st s document
  | brought {body : Bytes} {document : Text} : s.world.shelf.spot ≠ .blocked → ¬ st.IsFresh s.world →
      st.source.Admits s.world body document → Reads st s document

/-- A fault of the store, asked for rules, that is neither one of fetching nor reported as one of the rules. -/
inductive Escapes (st : Store) (s : State) : Fault → Prop
  /-- The path of the cache leads through a file. -/
  | pathBlocked : s.world.shelf.spot = .blocked → Escapes st s (.cache (.throughFile st.location.path))
  /-- The cache is fresh, its rules are not remembered, and it is no UTF-8. -/
  | notUtf8 {content : Bytes} {modified : Int} {g : Bytes.Fault} : s.world.shelf.spot = .file content modified →
      st.IsFresh s.world → s.memory.recall? (some modified) = none → Bytes.Utf8.decode content = .error g →
      Escapes st s (.cacheNotUtf8 g)
  /-- The document that is read runs into a limit. -/
  | unreported {document : Text} {g : Ruleset.Fault} : Reads st s document → Ruleset.ofText document = .error g →
      g.isReported = false → Escapes st s (.rules g)

theorem Escapes.not_isOfRules (h : st.Escapes s f) : f.isOfRules = false := by
  cases h with
  | pathBlocked _ => rfl
  | notUtf8 _ _ _ _ => rfl
  | unreported _ _ hg => exact hg

/-! ## A cache that is loaded -/

theorem document_outcome (l : Location) (w : World) :
    (Cache.document l w).1 = match w.shelf.read l with
      | .ok content => (Bytes.Utf8.decode content).mapError .cacheNotUtf8
      | .error f => .error (.fetch (.unreadable l.path f)) := by
  rw [Cache.document, adapt_run, Cache.readText_run]
  rcases w.shelf.read l with f | content
  · rfl
  · dsimp only [ok_mapError, Except.bind]
    rcases Bytes.Utf8.decode content with _ | _ <;> rfl

theorem recallOr_outcome (st : Store) (modified : Option Int) (s : State) :
    (st.recallOr modified s).1 = match s.memory.recall? modified with
      | some e => .ok e
      | none => do
        let document ← (Cache.document st.location s.world).1
        let rules ← (Ruleset.ofText document).mapError .rules
        return ⟨s.memory.editions, rules⟩ := by
  have start : st.recallOr modified s = (match s.memory.recall? modified with
      | some e => return e
      | none => (liftM (Cache.document st.location) : Job _) >>= fun document =>
          (liftM (Ruleset.parse document) : Job _) >>= fun rules => remember rules modified : Job Edition) s := rfl
  rw [start]
  rcases s.memory.recall? modified with _ | e
  · dsimp only
    rw [bind_run, lift_run]
    rcases (Cache.document st.location s.world).1 with f | document
    · rfl
    dsimp only
    rw [bind_run, lift_run, Ruleset.parse_run]
    show _ = (do
      let rules ← (Ruleset.ofText document).mapError Fault.rules
      return ⟨s.memory.editions, rules⟩ : Except Fault Edition)
    rcases Ruleset.ofText document with _ | _ <;> rfl
  · rfl

/-- With a fresh cache, the rules are those remembered or those in it. -/
theorem get_outcome_of_fresh (stat : s.world.shelf.spot ≠ .blocked) (fresh : st.IsFresh s.world) :
    (st.get s).1 = (st.recallOr s.world.shelf.spot.time? s).1 := by
  rw [get_of_fresh stat fresh, load_run, modified?_of_stat stat]
  rfl

/-- A fresh cache that is a file and whose rules are not remembered is read. -/
theorem get_of_kept {content : Bytes} {modified : Int} (file : s.world.shelf.spot = .file content modified)
    (fresh : st.IsFresh s.world) (unknown : s.memory.recall? (some modified) = none) :
    (st.get s).1 = (do
      let document ← (Bytes.Utf8.decode content).mapError .cacheNotUtf8
      let rules ← (Ruleset.ofText document).mapError .rules
      return ⟨s.memory.editions, rules⟩) := by
  have stat : s.world.shelf.spot ≠ .blocked := by rw [file]; exact nofun
  have read : s.world.shelf.read st.location = .ok content := by rw [Cache.Shelf.read, file]
  rw [get_outcome_of_fresh stat fresh, file, Cache.Spot.time?, recallOr_outcome, unknown, document_outcome, read]

theorem get_fault_of_fresh (stat : s.world.shelf.spot ≠ .blocked) (fresh : st.IsFresh s.world)
    (h : (st.get s).1 = .error f) : f.isOfRules = true ∨ st.Escapes s f := by
  cases hs : s.world.shelf.spot with
  | blocked => exact absurd hs stat
  | empty =>
    obtain ⟨t, ht, _⟩ := fresh
    rw [hs] at ht
    cases ht
  | folder t =>
    -- a folder can be asked for its time, but not be read
    have read : s.world.shelf.read st.location = .error (.isFolder st.location.path) := by
      rw [Cache.Shelf.read, hs]
    rw [get_outcome_of_fresh stat fresh, recallOr_outcome, document_outcome, read] at h
    split at h
    · cases h
    · cases h
      exact Or.inl rfl
  | file content t =>
    cases unknown : s.memory.recall? (some t) with
    | some e =>
      rw [get_outcome_of_fresh stat fresh, hs, Cache.Spot.time?, recallOr_outcome, unknown] at h
      cases h
    | none =>
      rw [get_of_kept hs fresh unknown] at h
      rcases except_bind_error.mp h with h | ⟨document, hd, h⟩
      · obtain ⟨g, hg, rfl⟩ := mapError_error.mp h
        exact Or.inr (.notUtf8 hs fresh unknown hg)
      rcases except_bind_error.mp h with h | ⟨rules, _, h⟩
      · obtain ⟨g, hg, rfl⟩ := mapError_error.mp h
        cases reported : g.isReported with
        | true => exact Or.inl reported
        | false => exact Or.inr (.unreported (.kept hs fresh unknown (mapError_ok.mp hd)) hg reported)
      · cases h

/-! ## A download -/

theorem get_fault_of_stale (stat : s.world.shelf.spot ≠ .blocked) (stale : ¬ st.IsFresh s.world)
    (h : (st.get s).1 = .error f) : f.isOfRules = true ∨ st.Escapes s f := by
  rw [get_of_stale stat stale] at h
  rcases hc : (Download.checked st.source s.world).1 with g | ⟨document, rules⟩
  · rw [download_of_refused hc] at h
    cases h
    rcases Download.checked_cases st.source s.world with ⟨g, hg⟩ | ⟨body, document, admitted⟩
    · rw [hc] at hg
      cases hg
      exact Or.inl rfl
    rw [Download.checked_of_admits admitted] at hc
    rcases hr : Ruleset.ofText document with g | rules <;> rw [hr] at hc <;> cases hc
    cases reported : g.isReported with
    | true => exact Or.inl reported
    | false => exact Or.inr (.unreported (.brought stat stale admitted) hr reported)
  · -- a document that passed the checks can only fail to be kept
    rw [download_of_checked hc, adopt, bind_run, lift_run] at h
    have kept : ∀ w, (Cache.writeText st.location document w).1 =
        ((w.shelf.write st.location w.now (Bytes.Utf8.encode document)).1).mapError fun g =>
          .fetch (.unwritable st.location.path g) := fun _ => rfl
    rcases Cache.writeText_cases st.location document (st.checkedState s).world with ⟨g, hw⟩ | ⟨_, hw⟩
    · have refused := kept (st.checkedState s).world
      rw [hw] at h refused
      cases h
      obtain ⟨g, _, rfl⟩ := mapError_error.mp refused.symm
      exact Or.inl rfl
    · rw [hw] at h
      cases h

/-! ## What escapes -/

theorem get_of_escapes (h : st.Escapes s f) : (st.get s).1 = .error f := by
  cases h with
  | pathBlocked blocked =>
    have looked : (st.isStale s.world).1 = .error (.cache (.throughFile st.location.path)) := by
      rw [isStale_run, Cache.Shelf.modified?, blocked]
      rfl
    rw [get, getAmid_run, looked]
  | notUtf8 file fresh unknown hg =>
    rw [get_of_kept file fresh unknown, hg]
    rfl
  | unreported read hg _ =>
    cases read with
    | kept file fresh unknown hd =>
      rw [get_of_kept file fresh unknown, hd]
      show ((Ruleset.ofText _).mapError Fault.rules >>= _) = _
      rw [hg]
      rfl
    | brought stat stale admitted =>
      have refused := Download.checked_of_admits admitted
      rw [hg] at refused
      rw [get_of_stale stat stale, download_of_refused refused]

/-- Asked for rules, the store fails with a fault that is not foreseen exactly if the fault escapes. -/
theorem get_escapes_iff : (st.get s).1 = .error f ∧ f.isOfRules = false ↔ st.Escapes s f := by
  constructor
  · rintro ⟨h, unforeseen⟩
    have found : f.isOfRules = true ∨ st.Escapes s f := by
      by_cases blocked : s.world.shelf.spot = .blocked
      · rw [get_of_escapes (.pathBlocked blocked)] at h
        cases h
        exact Or.inr (.pathBlocked blocked)
      by_cases fresh : st.IsFresh s.world
      · exact get_fault_of_fresh blocked fresh h
      · exact get_fault_of_stale blocked fresh h
    rcases found with foreseen | escapes
    · rw [unforeseen] at foreseen
      cases foreseen
    · exact escapes
  · exact fun escapes => ⟨get_of_escapes escapes, escapes.not_isOfRules⟩

/-- The rules that are handed out were remembered, or read from a document. -/
theorem get_ok_cases {e : Edition} (h : (st.get s).1 = .ok e) :
    (∃ t, s.memory.latest = some (e, t)) ∨ ∃ document, Ruleset.ofText document = .ok e.rules := by
  by_cases blocked : s.world.shelf.spot = .blocked
  · rw [get_of_escapes (.pathBlocked blocked)] at h
    cases h
  by_cases fresh : st.IsFresh s.world
  · rw [get_outcome_of_fresh blocked fresh, recallOr_outcome] at h
    cases known : s.memory.recall? s.world.shelf.spot.time? with
    | some e' =>
      rw [known] at h
      cases h
      unfold Memory.recall? at known
      split at known
      · split at known <;> cases known
        exact Or.inl ⟨_, ‹_›⟩
      · cases known
    | none =>
      rw [known] at h
      obtain ⟨document, _, h⟩ := except_bind_ok.mp h
      obtain ⟨rules, hr, h⟩ := except_bind_ok.mp h
      cases h
      exact Or.inr ⟨document, mapError_ok.mp hr⟩
  · rw [get_of_stale blocked fresh] at h
    obtain ⟨_, _, delivered, _⟩ := download_ok h
    obtain ⟨document, _, hr⟩ := delivered.document
    exact Or.inr ⟨document, hr⟩

end Store
end Untrack
