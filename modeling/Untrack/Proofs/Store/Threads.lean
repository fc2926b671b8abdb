/-
  Untrack.Proofs.Store.Threads — what one step of a call does to the state that all threads share (`Stage.Goes`), and
  what a call does that is left alone: after a few steps it has ended, with the outcome and the state of the job that
  it is a call of (`left_alone`). At most one call holds the lock (`Exclusive`).
-/

import Untrack.Proofs.Store.Steps
import Untrack.Proofs.World.History
import Untrack.Store.Threads

namespace Untrack

/-- The server was asked between two states, and nothing else happened. -/
def State.Looks (s s' : State) : Prop := s.world.Asked s'.world ∧ s'.memory = s.memory

instance isPreorder_looks : IsPreorder State State.Looks where
  refl _ := ⟨refl_of World.Asked _, rfl⟩
  trans _ _ _ h k := ⟨trans_of World.Asked h.1 k.1, k.2.trans h.2⟩

namespace Store

/-- What is left of a call that has just got the lock and was not forced. -/
def getLocked (st : Store) : Job Edition := do
  if ← st.isStale then st.download .nothing else st.load .nothing

namespace Stage

variable {st : Store} {s : State}

/-! ## One step -/

/-- The step that a call may take in a state, the stage it is at then, and the state it leaves. -/
inductive Goes (st : Store) (s : State) : Stage → Stage → State → Prop
  | looked {locked : Bool} : Goes st s (looking locked) (judging locked s.world.shelf.spot.time?) s
  | stale {locked : Bool} {modified : Option Int}
      (outdated : Cache.isOutdated st.maxAge s.world.now modified = true) :
      Goes st s (judging locked modified) (if locked then fetching else waiting false) s
  | fresh {locked : Bool} {modified : Option Int}
      (outdated : Cache.isOutdated st.maxAge s.world.now modified = false) :
      Goes st s (judging locked modified) (if locked then releasing none else asking) s
  | locked {forced : Bool} : Goes st s (waiting forced) (if forced then fetching else looking true) s
  | fetched {document : Text} {w : World} (fetch : Download.rules st.source s.world = (.ok document, w))
      (verifies : st.source.verifies = true) : Goes st s fetching (verifying document) { s with world := w }
  | accepted {document : Text} {rules : Ruleset} {w : World}
      (fetch : Download.rules st.source s.world = (.ok document, w)) (verifies : st.source.verifies = false)
      (read : Ruleset.ofText document = .ok rules) :
      Goes st s fetching (keeping document rules) { s with world := w }
  | verified {document expected : Text} {rules : Ruleset} {w : World}
      (fetch : Download.hash st.source s.world = (.ok expected, w))
      (verifies : Download.verify document expected = .ok ()) (read : Ruleset.ofText document = .ok rules) :
      Goes st s (verifying document) (keeping document rules) { s with world := w }
  | kept {document : Text} {rules : Ruleset} :
      Goes st s (keeping document rules) (dating rules) { s with world := s.world.keeping document }
  | dated {rules : Ruleset} : Goes st s (dating rules) (remembering true rules s.world.shelf.spot.time?) s
  | remembered {locked : Bool} {rules : Ruleset} {modified : Option Int} :
      Goes st s (remembering locked rules modified)
        (if locked then releasing (some (.ok ⟨s.memory.editions, rules⟩)) else ended (.ok ⟨s.memory.editions, rules⟩))
        (s.remembering rules modified)
  | released : Goes st s (releasing none) asking s
  | finished {outcome : Except Fault Edition} : Goes st s (releasing (some outcome)) (ended outcome) s
  | asked : Goes st s asking (recalling s.world.shelf.spot.time?) s
  | recalled {modified : Option Int} {e : Edition} (known : s.memory.recall? modified = some e) :
      Goes st s (recalling modified) (ended (.ok e)) s
  | unknown {modified : Option Int} (unknown : s.memory.recall? modified = none) :
      Goes st s (recalling modified) (reading modified) s
  | read {modified : Option Int} {rules : Ruleset} (held : s.world.shelf.Holds rules) :
      Goes st s (reading modified) (remembering false rules modified) s
  | failed {g : Stage} {f : Fault} {w : World} (run : g.next st s = (.error f, { s with world := w }))
      (asked : s.world.Asked w) : Goes st s g (g.fail f) { s with world := w }
  | idle {outcome : Except Fault Edition} : Goes st s (ended outcome) (ended outcome) s

/-- A cache that tells its time tells that of what stands at its path. -/
theorem time_of_asked {l : Location} {t : Option Int} {s' : State}
    (h : (liftM (Cache.modified? l) : Job (Option Int)) s = (.ok t, s')) : t = s.world.shelf.spot.time? ∧ s' = s := by
  rw [lift_run, Cache.modified?, Act.ofShelf_run] at h
  obtain ⟨outcome, rfl⟩ := Prod.mk.inj h
  exact ⟨Cache.Shelf.modified?_ok (mapError_ok.mp outcome), rfl⟩

theorem of_lift {t : Act α} {a : α} {s' : State} (h : (liftM t : Job α) s = (.ok a, s')) :
    ∃ w, t s.world = (.ok a, w) ∧ s' = { s with world := w } := by
  have done := lift_ok h
  rw [lift_run] at h
  obtain ⟨_, rfl⟩ := Prod.mk.inj h
  exact ⟨_, done, rfl⟩

theorem of_ofExcept {r : Except Fault α} {a : α} {s' : State}
    (h : (liftM (Act.ofExcept r) : Job α) s = (.ok a, s')) : r = .ok a ∧ s' = s := by
  rw [lift_run, Act.ofExcept_run] at h
  obtain ⟨outcome, rfl⟩ := Prod.mk.inj h
  exact ⟨outcome, rfl⟩

/-- A call that did what it was about to do took one of the steps. -/
theorem goes_of_ok {g g' : Stage} {s' : State} (h : g.next st s = (.ok g', s')) : Goes st s g g' s' := by
  cases g with
  | looking locked =>
    obtain ⟨modified, _, asked, h⟩ := bind_ok h
    obtain ⟨rfl, rfl⟩ := time_of_asked asked
    cases h
    exact .looked
  | judging locked modified =>
    obtain ⟨now, _, seen, h⟩ := bind_ok h
    cases seen
    split at h <;> cases h
    · exact .stale ‹_›
    · exact .fresh (Bool.eq_false_iff.mpr ‹_›)
  | waiting forced =>
    cases h
    exact .locked
  | fetching =>
    obtain ⟨document, _, fetched, h⟩ := bind_ok h
    obtain ⟨w, fetch, rfl⟩ := of_lift fetched
    split at h
    · cases h
      exact .fetched fetch ‹_›
    · obtain ⟨rules, _, parsed, h⟩ := bind_ok h
      obtain ⟨read, rfl⟩ := of_ofExcept parsed
      cases h
      exact .accepted fetch (Bool.eq_false_iff.mpr ‹_›) (mapError_ok.mp read)
  | verifying document =>
    obtain ⟨expected, _, fetched, h⟩ := bind_ok h
    obtain ⟨w, fetch, rfl⟩ := of_lift fetched
    obtain ⟨_, _, compared, h⟩ := bind_ok h
    obtain ⟨verifies, rfl⟩ := of_ofExcept compared
    obtain ⟨rules, _, parsed, h⟩ := bind_ok h
    obtain ⟨read, rfl⟩ := of_ofExcept parsed
    cases h
    exact .verified fetch (mapError_ok.mp verifies) (mapError_ok.mp read)
  | keeping document rules =>
    obtain ⟨_, _, written, h⟩ := bind_ok h
    obtain ⟨w, write, rfl⟩ := of_lift written
    cases h
    rcases Cache.writeText_cases st.location document s.world with ⟨f, failed⟩ | ⟨_, kept⟩
    · rw [failed] at write
      cases write
    · rw [kept] at write
      cases write
      exact .kept
  | dating rules =>
    obtain ⟨modified, _, asked, h⟩ := bind_ok h
    obtain ⟨rfl, rfl⟩ := time_of_asked asked
    cases h
    exact .dated
  | remembering locked rules modified =>
    obtain ⟨e, _, made, h⟩ := bind_ok h
    cases made
    cases h
    exact .remembered
  | releasing outcome =>
    cases outcome with
    | none =>
      cases h
      exact .released
    | some outcome =>
      cases h
      exact .finished
  | asking =>
    obtain ⟨modified, _, asked, h⟩ := bind_ok h
    obtain ⟨rfl, rfl⟩ := time_of_asked asked
    cases h
    exact .asked
  | recalling modified =>
    obtain ⟨memory, _, seen, h⟩ := bind_ok h
    cases seen
    cases known : s.memory.recall? modified with
    | some e =>
      rw [known] at h
      cases h
      exact .recalled known
    | none =>
      rw [known] at h
      cases h
      exact .unknown known
  | reading modified =>
    obtain ⟨document, _, found, h⟩ := bind_ok h
    obtain ⟨w, find, rfl⟩ := of_lift found
    obtain ⟨rules, _, parsed, h⟩ := bind_ok h
    obtain ⟨read, rfl⟩ := of_ofExcept parsed
    cases h
    rcases Cache.document_cases st.location s.world with ⟨f, failed⟩ | ⟨content, t, d, file, decoded, done⟩
    · rw [failed] at find
      cases find
    · rw [done] at find
      cases find
      exact .read ⟨content, t, _, file, decoded, mapError_ok.mp read⟩
  | ended outcome =>
    cases h
    exact .idle

/-- Only to keep a document and to remember rules is more than to look and to ask. -/
theorem next_looks (g : Stage) :
    Within State.Looks (g.next st) ∨ (∃ document rules, g = keeping document rules) ∨
      ∃ locked rules modified, g = remembering locked rules modified := by
  have looks : ∀ {α : Type} {t : Act α}, Within World.Asked t → Within State.Looks (liftM t : Job α) := fun h s =>
    ⟨h s.world, rfl⟩
  have dated : Within World.Asked (Cache.modified? st.location) := Act.asked_ofShelf _
  have clocked : Within World.Asked clock := fun w => refl_of World.Asked w
  cases g with
  | keeping document rules => exact .inr (.inl ⟨_, _, rfl⟩)
  | remembering locked rules modified => exact .inr (.inr ⟨_, _, _, rfl⟩)
  | looking locked => exact .inl (within_bind (looks dated) fun _ => within_pure _)
  | judging locked modified =>
    refine .inl (within_bind (looks clocked) fun _ => ?_)
    split <;> exact within_pure _
  | waiting forced => exact .inl (within_pure _)
  | fetching =>
    refine .inl (within_bind (looks (Act.asked_fetch _)) fun document => ?_)
    split
    · exact within_pure _
    · exact within_bind (looks (Ruleset.asked_parse document)) fun _ => within_pure _
  | verifying document =>
    have hashed : Within World.Asked (Download.hash st.source) :=
      within_bind (Act.asked_fetch _) fun _ => within_pure _
    refine .inl (within_bind (looks hashed) fun _ => within_bind (looks (Act.asked_ofExcept _)) fun _ => ?_)
    exact within_bind (looks (Ruleset.asked_parse document)) fun _ => within_pure _
  | dating rules => exact .inl (within_bind (looks dated) fun _ => within_pure _)
  | releasing outcome => cases outcome <;> exact .inl (within_pure _)
  | asking => exact .inl (within_bind (looks dated) fun _ => within_pure _)
  | recalling modified =>
    refine .inl (within_bind (fun s => refl_of State.Looks s) fun memory => ?_)
    split <;> exact within_pure _
  | reading modified =>
    have found : Within World.Asked (Cache.document st.location) := fun w => Act.asked_readText st.location w
    refine .inl (within_bind (looks found) fun document => ?_)
    exact within_bind (looks (Ruleset.asked_parse document)) fun _ => within_pure _
  | ended outcome => exact .inl (within_pure _)

/-- A step that fails has at most asked the server. -/
theorem asked_of_error {g : Stage} {f : Fault} {s' : State} (h : g.next st s = (.error f, s')) :
    ∃ w, s.world.Asked w ∧ s' = { s with world := w } := by
  rcases next_looks g with looked | ⟨document, rules, rfl⟩ | ⟨locked, rules, modified, rfl⟩
  · obtain ⟨asked, memory⟩ := looked s
    rw [h] at asked memory
    refine ⟨s'.world, asked, ?_⟩
    rw [← memory]
  · rcases bind_error h with failed | ⟨_, _, _, h⟩
    · rw [lift_run] at failed
      rcases Cache.writeText_cases st.location document s.world with ⟨_, refused⟩ | ⟨_, kept⟩
      · rw [refused] at failed
        exact ⟨s.world, refl_of World.Asked _, (Prod.mk.inj failed).2.symm⟩
      · rw [kept] at failed
        cases failed
    · cases h
  · cases h

theorem step_goes (st : Store) (g : Stage) (s : State) : Goes st s g (g.step st s).1 (g.step st s).2 := by
  rcases h : g.next st s with ⟨f | g', s'⟩
  · rw [step, h]
    obtain ⟨w, asked, rfl⟩ := asked_of_error h
    exact .failed h asked
  · rw [step, h]
    exact goes_of_ok h

/-! ## What is left of a call -/

/-- What is left of a call, if it is left alone. -/
def rest (st : Store) : Stage → Job Edition
  | looking locked => do
    if ← st.isStale then if locked then st.download .nothing else st.getLocked else st.load .nothing
  | judging locked modified => do
    if Cache.isOutdated st.maxAge (← clock) modified then
      if locked then st.download .nothing else st.getLocked
    else st.load .nothing
  | waiting forced => if forced then st.download .nothing else st.getLocked
  | fetching => st.download .nothing
  | verifying document => do
    let expected ← Download.hash st.source
    Act.ofExcept ((Download.verify document expected).mapError .fetch)
    st.adopt .nothing document (← Ruleset.parse document)
  | keeping document rules => st.adopt .nothing document rules
  | dating rules => do remember rules (← Cache.modified? st.location)
  | remembering _ rules modified => remember rules modified
  | releasing none | asking => st.load .nothing
  | recalling modified => st.recallOr modified
  | reading modified => do
    let document ← Cache.document st.location
    remember (← Ruleset.parse document) modified
  | releasing (some outcome) | ended outcome => fun s => (outcome, s)

/-- Whether the clock is looked at before the cache is asked for its time or after makes no difference to one alone. -/
theorem isStale_eq (st : Store) :
    (liftM st.isStale : Job Bool) = do
      let modified ← Cache.modified? st.location
      return Cache.isOutdated st.maxAge (← clock) modified := by
  funext s
  rw [lift_run, isStale_run, bind_run, lift_run, Cache.modified?, Act.ofShelf_run]
  rcases s.world.shelf.modified? st.location with f | modified <;> rfl

/-- What is left of a call is what it is about to do, and what is left then. -/
theorem rest_eq (g : Stage) : g.rest st = g.next st >>= rest st := by
  cases g with
  | looking locked =>
    simp only [rest, next, isStale_eq, bind_assoc, pure_bind]
  | judging locked modified =>
    simp only [rest, next, bind_assoc]
    refine bind_congr fun now => ?_
    cases Cache.isOutdated st.maxAge now modified <;> cases locked <;> rfl
  | waiting forced => cases forced <;> rfl
  | fetching =>
    simp only [rest, next, download, bind_assoc]
    refine bind_congr fun document => ?_
    cases st.source.verifies with
    | true => simp only [if_true, pure_bind, rest, adopt]
    | false => simp only [Bool.false_eq_true, if_false, pure_bind, bind_assoc, rest, adopt]
  | verifying document => simp only [rest, next, bind_assoc, pure_bind]
  | keeping document rules => simp only [rest, next, bind_assoc, pure_bind]; rfl
  | dating rules => simp only [rest, next, bind_assoc, pure_bind]
  | remembering locked rules modified => cases locked <;> rfl
  | releasing outcome => cases outcome <;> rfl
  | asking =>
    funext s
    simp only [rest, next, bind_assoc, pure_bind]
    rw [load_run, bind_run, lift_run, Cache.modified?, Act.ofShelf_run]
    rcases s.world.shelf.modified? st.location with f | modified <;> rfl
  | recalling modified =>
    simp only [rest, next, recallOr, bind_assoc]
    refine bind_congr fun memory => ?_
    cases memory.recall? modified with
    | some e => rfl
    | none => simp only [pure_bind, rest]
  | reading modified => simp only [rest, next, bind_assoc, pure_bind]
  | ended outcome => rfl

/-- What was left of a call before a step is done by the step and what is left then, also if the step fails. -/
theorem rest_step (st : Store) (g : Stage) (s : State) : (g.step st s).1.rest st (g.step st s).2 = g.rest st s := by
  rw [rest_eq g, bind_run, step]
  rcases g.next st s with ⟨f | g', s'⟩
  · dsimp only
    rw [fail]
    split <;> rfl
  · rfl

/-- A call that is left alone from the beginning does what the job does. -/
theorem rest_first (st : Store) (forced : Bool) : (first forced).rest st = if forced then st.refresh else st.get := by
  cases forced with
  | true => rfl
  | false =>
    funext s
    have locked : s.atLock .nothing = s := rfl
    show (looking false).rest st s = st.get s
    rw [rest, isStale_bind, get, getAmid_run, locked]
    rcases h : (st.isStale s.world).1 with f | _ | _
    · rfl
    · rfl
    · show st.getLocked s = _
      rw [getLocked, isStale_bind, h]
      rfl

/-- How many steps a call has to take at most, if it is left alone. -/
def toGo : Stage → Nat
  | ended _ => 0
  | releasing (some _) => 1
  | remembering _ _ _ => 2
  | reading _ | dating _ => 3
  | recalling _ | keeping _ _ => 4
  | asking | verifying _ => 5
  | releasing none | fetching => 6
  | judging true _ => 7
  | looking true => 8
  | waiting _ => 9
  | judging false _ => 10
  | looking false => 11

theorem eq_ended {g : Stage} (h : g.toGo = 0) : ∃ outcome, g = ended outcome := by
  cases g with
  | ended outcome => exact ⟨outcome, rfl⟩
  | looking locked => cases locked <;> simp [toGo] at h
  | judging locked _ => cases locked <;> simp [toGo] at h
  | releasing outcome => cases outcome <;> simp [toGo] at h
  | _ => simp [toGo] at h

theorem toGo_fail (g : Stage) (f : Fault) : (g.fail f).toGo ≤ 1 := by
  unfold fail
  split <;> simp [toGo]

theorem Goes.toGo_lt {g g' : Stage} {s' : State} (h : Goes st s g g' s') (going : 0 < g.toGo) : g'.toGo < g.toGo := by
  cases h with
  | @looked locked => cases locked <;> simp [toGo]
  | @stale locked => cases locked <;> simp [toGo]
  | @fresh locked => cases locked <;> simp [toGo]
  | @locked forced => cases forced <;> simp [toGo]
  | @remembered locked => cases locked <;> simp [toGo]
  | @failed _ f _ run =>
    have ending := toGo_fail g f
    have later : 1 < g.toGo := by
      cases g with
      | releasing outcome =>
        cases outcome with
        | none => simp [toGo]
        | some _ => cases run
      | ended _ => simp [toGo] at going
      | looking locked => cases locked <;> simp [toGo]
      | judging locked _ => cases locked <;> simp [toGo]
      | _ => simp [toGo]
    omega
  | idle => simp [toGo] at going
  | _ => simp [toGo]

/-- A step takes the lock only if the call waits for it. -/
theorem Goes.waits {g g' : Stage} {s' : State} (h : Goes st s g g' s') (held : g'.holdsLock = true) :
    g.holdsLock = true ∨ ∃ forced, g = waiting forced := by
  cases h with
  | @stale locked => cases locked <;> simp_all [holdsLock]
  | @fresh locked => cases locked <;> simp_all [holdsLock]
  | @remembered locked => cases locked <;> simp_all [holdsLock]
  | locked => exact .inr ⟨_, rfl⟩
  | failed =>
    unfold fail at held
    split at held
    · exact .inl ‹_›
    · cases held
  | _ => simp_all [holdsLock]

end Stage

/-! ## Moves -/

namespace Threads

variable {st : Store} {t : Threads} {i : Nat} {g : Stage}

theorem move_go (st : Store) (call : t.calls[i]? = some g) (free : t.canGo g = true) :
    t.move st (.go i) = ⟨(g.step st t.state).2, t.calls.set i (g.step st t.state).1⟩ := by
  simp only [move, call, free, if_true]

/-- A call takes a step or stands still. -/
theorem go_cases (st : Store) (t : Threads) (i : Nat) :
    t.move st (.go i) = t ∨ ∃ g, t.calls[i]? = some g ∧ t.canGo g = true ∧
      t.move st (.go i) = ⟨(g.step st t.state).2, t.calls.set i (g.step st t.state).1⟩ := by
  cases call : t.calls[i]? with
  | none =>
    left
    simp only [move, call]
  | some g =>
    by_cases free : t.canGo g = true
    · exact .inr ⟨g, rfl, free, move_go st call free⟩
    · left
      simp [move, call, free]

theorem after_cons (st : Store) (t : Threads) (m : Move) (moves : List Move) :
    t.after st (m :: moves) = (t.move st m).after st moves := rfl

theorem after_concat (st : Store) (t : Threads) (moves : List Move) (m : Move) :
    t.after st (moves ++ [m]) = (t.after st moves).move st m := by
  simp only [after, List.foldl_append, List.foldl_cons, List.foldl_nil]

/-- The calls there are after one more has begun. -/
theorem begun_cases {l : List Stage} {new : Stage} {k : Nat} (h : (l ++ [new])[k]? = some g) :
    l[k]? = some g ∨ k = l.length ∧ g = new := by
  rw [List.getElem?_append] at h
  split at h
  · exact .inl h
  · rw [List.getElem?_singleton] at h
    split at h
    · exact .inr ⟨by omega, (Option.some.inj h).symm⟩
    · cases h

/-- The calls there are after one has taken a step. -/
theorem stepped_cases {l : List Stage} {next : Stage} {k : Nat} (h : (l.set i next)[k]? = some g) :
    k = i ∧ g = next ∨ k ≠ i ∧ l[k]? = some g := by
  rw [List.getElem?_set] at h
  split at h
  · split at h
    · exact .inl ⟨by omega, (Option.some.inj h).symm⟩
    · cases h
  · exact .inr ⟨by omega, h⟩

/-- No call but this one holds the lock. -/
def Alone (t : Threads) (i : Nat) : Prop := ∀ j g, j ≠ i → t.calls[j]? = some g → g.holdsLock = false

theorem Alone.canGo (alone : t.Alone i) (call : t.calls[i]? = some g) : t.canGo g = true := by
  cases g with
  | waiting forced =>
    refine List.all_eq_true.mpr fun g' hg' => ?_
    obtain ⟨j, call'⟩ := List.mem_iff_getElem?.mp hg'
    rw [Bool.not_eq_true']
    by_cases same : j = i
    · subst same
      obtain rfl : g' = .waiting forced := by simpa [call'] using call
      rfl
    · exact alone j g' same call'
  | _ => rfl

theorem Alone.set (alone : t.Alone i) (s : State) (g : Stage) : Alone ⟨s, t.calls.set i g⟩ i := by
  intro j g' other call
  rcases stepped_cases call with ⟨rfl, _⟩ | ⟨_, call⟩
  · exact absurd rfl other
  · exact alone j g' other call

/-- Enough steps, one after the other, bring a call to the end of what is left of it. -/
theorem left_alone (st : Store) (n : Nat) (alone : t.Alone i) (call : t.calls[i]? = some g) (enough : g.toGo ≤ n) :
    t.after st (List.replicate n (.go i)) =
      ⟨(g.rest st t.state).2, t.calls.set i (.ended (g.rest st t.state).1)⟩ := by
  induction n generalizing t g with
  | zero =>
    obtain ⟨outcome, rfl⟩ := Stage.eq_ended (Nat.le_zero.mp enough)
    obtain ⟨within, found⟩ := List.getElem?_eq_some_iff.mp call
    have same : t.calls.set i (.ended outcome) = t.calls := found ▸ List.set_getElem_self within
    exact congrArg (Threads.mk t.state) same.symm
  | succ n ih =>
    have moved := move_go st call (alone.canGo call)
    have reached : (t.calls.set i (g.step st t.state).1)[i]? = some (g.step st t.state).1 :=
      List.getElem?_set_self (List.getElem?_eq_some_iff.mp call).1
    have fewer : (g.step st t.state).1.toGo ≤ n := by
      rcases Nat.eq_zero_or_pos g.toGo with none | some
      · obtain ⟨outcome, rfl⟩ := Stage.eq_ended none
        exact Nat.zero_le n
      · have := (Stage.step_goes st g t.state).toGo_lt some
        omega
    rw [List.replicate_succ, after_cons, moved, ih (alone.set (g.step st t.state).2 _) reached fewer]
    rw [Stage.rest_step, List.set_set]

/-- A call that begins while nobody holds the lock and is left alone does what the job does. -/
theorem call_alone (st : Store) (t : Threads) (free : ∀ g ∈ t.calls, g.holdsLock = false) (forced : Bool) :
    t.after st (.call forced :: List.replicate 11 (.go t.calls.length)) =
      ⟨((if forced then st.refresh else st.get) t.state).2,
        t.calls ++ [.ended ((if forced then st.refresh else st.get) t.state).1]⟩ := by
  have begun : (t.calls ++ [.first forced])[t.calls.length]? = some (.first forced) := List.getElem?_concat_length
  have alone : Alone ⟨t.state, t.calls ++ [.first forced]⟩ t.calls.length := by
    intro j g other call
    rcases begun_cases call with old | ⟨rfl, _⟩
    · exact free g (List.mem_of_getElem? old)
    · exact absurd rfl other
  have enough : (Stage.first forced).toGo ≤ 11 := by cases forced <;> decide
  have ended := left_alone st 11 alone begun enough
  rw [Stage.rest_first, List.set_append_right _ _ (Nat.le_refl _), Nat.sub_self] at ended
  rw [after_cons]
  exact ended

/-! ## The lock -/

/-- A call that holds the lock is alone in this. -/
def Exclusive (t : Threads) : Prop := ∀ i g, t.calls[i]? = some g → g.holdsLock = true → t.Alone i

/-- A call that holds the lock after its step is alone in this: it held the lock before, or found that nobody did. -/
theorem Exclusive.taken (h : t.Exclusive) (call : t.calls[i]? = some g) (free : t.canGo g = true)
    (held : (g.step st t.state).1.holdsLock = true) : t.Alone i := by
  rcases (Stage.step_goes st g t.state).waits held with before | ⟨forced, rfl⟩
  · exact h i g call before
  · intro j g' _ call'
    have := List.all_eq_true.mp free g' (List.mem_of_getElem? call')
    rwa [Bool.not_eq_true'] at this

theorem Exclusive.move (h : t.Exclusive) (m : Move) : (t.move st m).Exclusive := by
  cases m with
  | call forced =>
    have unlocked : (Stage.first forced).holdsLock = false := by cases forced <;> rfl
    intro k g call held j g' other call'
    rcases begun_cases call with old | ⟨_, rfl⟩
    · rcases begun_cases call' with old' | ⟨_, rfl⟩
      · exact h k g old held j g' other old'
      · exact unlocked
    · rw [unlocked] at held
      cases held
  | go i =>
    rcases go_cases st t i with stands | ⟨g, call, free, moved⟩
    · rwa [stands]
    rw [moved]
    intro k g₁ call₁ held j g₂ other call₂
    rcases stepped_cases call₁ with ⟨rfl, rfl⟩ | ⟨still, old₁⟩
    · rcases stepped_cases call₂ with ⟨rfl, _⟩ | ⟨_, old₂⟩
      · exact absurd rfl other
      · exact h.taken call free held j g₂ other old₂
    · rcases stepped_cases call₂ with ⟨rfl, rfl⟩ | ⟨_, old₂⟩
      · -- The call that took the step would have taken the lock from another.
        refine Bool.eq_false_iff.mpr fun took => ?_
        rw [h.taken call free took k g₁ still old₁] at held
        cases held
      · exact h k g₁ old₁ held j g₂ other old₂
  | change c => exact h

/-- What every move keeps holds after all of them. -/
theorem after_keeps {P : Threads → Prop} (moves : List Move) (first : P t)
    (kept : ∀ t m, P t → P (t.move st m)) : P (t.after st moves) := by
  induction moves generalizing t with
  | nil => exact first
  | cons m moves ih => exact ih (kept t m first)

theorem exclusive_start (s : State) : (start s).Exclusive := by
  intro i g call
  have none : ([] : List Stage)[i]? = some g := call
  cases none

theorem exclusive_after (st : Store) (s : State) (moves : List Move) : ((start s).after st moves).Exclusive :=
  after_keeps moves (exclusive_start s) fun _ m h => h.move m

end Threads
end Store
end Untrack
