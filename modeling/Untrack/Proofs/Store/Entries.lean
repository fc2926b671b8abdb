/-
  Untrack.Proofs.Store.Entries — what a store that is asked from several threads remembers, and for which time. A
  call that remembers rules has them from one look at the cache and the time from another (`Threads.Pairs`): it asked
  for the time and then read a document, or it kept a document and then asked for the time. If nothing came to the
  cache's path between the two, the time is that of the document; if something did, the time and the rules are of two
  different files (`remembered_for_time`).
-/

import Mathlib.Data.List.Induction
import Mathlib.Data.List.Infix
import Untrack.Proofs.Store.Recall
import Untrack.Proofs.Store.Threads

namespace Untrack.Store

/-- What a step of a call leaves the store to remember was remembered before, or it is what the call had found. -/
theorem Stage.Goes.latest {st : Store} {s s' : State} {g g' : Stage} {e : Edition} {time : Int}
    (goes : g.Goes st s g' s') (h : s'.memory.latest = some (e, some time)) :
    s.memory.latest = some (e, some time) ∨ ∃ locked, g = .remembering locked e.rules (some time) := by
  cases goes with
  | remembered =>
    cases h
    exact .inr ⟨_, rfl⟩
  | _ => exact .inl h

namespace Threads

abbrev shelf (t : Threads) : Cache.Shelf := t.state.world.shelf

variable {st : Store} {t₀ : Threads} {moves : List Move} {i : Nat} {g : Stage} {rules : Ruleset} {time : Int}

/-- At some moment of a run. -/
def Once (st : Store) (t₀ : Threads) (moves : List Move) (P : Threads → Prop) : Prop :=
  ∃ earlier, earlier <+: moves ∧ P (t₀.after st earlier)

theorem Once.mono {moves' : List Move} {P : Threads → Prop} (h : Once st t₀ moves P) (more : moves <+: moves') :
    Once st t₀ moves' P := by
  obtain ⟨earlier, among, p⟩ := h
  exact ⟨earlier, among.trans more, p⟩

/-- A call has rules and a time from two looks at the cache, just after one moment and just before another. -/
inductive Pairs (i : Nat) (rules : Ruleset) (time : Int) (first second : Threads) : Prop
  /-- It asked for the time, and then it read the rules. -/
  | loading (asked : first.calls[i]? = some (.recalling (some time)))
      (dated : first.shelf.spot.time? = some time)
      (reads : second.calls[i]? = some (.reading (some time))) (held : second.shelf.Holds rules)
  /-- It kept a document with the rules, and then it asked for the time. -/
  | downloading (kept : first.calls[i]? = some (.dating rules)) (held : first.shelf.Holds rules)
      (asks : second.calls[i]? = some (.dating rules)) (dated : second.shelf.spot.time? = some time)

/-- At two moments of a run a call looked at the cache, and so has rules and a time for them. -/
def Found (st : Store) (t₀ : Threads) (moves : List Move) (rules : Ruleset) (time : Int) : Prop :=
  ∃ i earlier later, earlier <+: later ∧ later ++ [.go i] <+: moves ∧
    Pairs i rules time (t₀.after st earlier) (t₀.after st later)

/-- At two moments of a run a call looked at the cache, and by the second something else had come to the path. -/
def Overtaken (st : Store) (t₀ : Threads) (moves : List Move) (rules : Ruleset) (time : Int) : Prop :=
  ∃ i earlier later, earlier <+: later ∧ later ++ [.go i] <+: moves ∧
    (t₀.after st earlier).shelf.spot ≠ (t₀.after st later).shelf.spot ∧
    Pairs i rules time (t₀.after st earlier) (t₀.after st later)

/-- What a run has behind it when a call is at a stage. -/
def Warranted (st : Store) (t₀ : Threads) (moves : List Move) (i : Nat) : Stage → Prop
  | .keeping document rules => Ruleset.ofText document = .ok rules
  | .dating rules => Once st t₀ moves fun t =>
      t.calls[i]? = some (.dating rules) ∧ t.shelf.Holds rules
  | .recalling modified | .reading modified => ∀ time, modified = some time → Once st t₀ moves fun t =>
      t.calls[i]? = some (.recalling (some time)) ∧ t.shelf.spot.time? = some time
  | .remembering _ rules modified => ∀ time, modified = some time → Found st t₀ moves rules time
  | _ => True

/-- Every call is where it is for a reason, and so is what the store remembers. -/
structure Accounted (st : Store) (t₀ : Threads) (moves : List Move) : Prop where
  calls : ∀ i g, (t₀.after st moves).calls[i]? = some g → Warranted st t₀ moves i g
  memory : ∀ e time, (t₀.after st moves).state.memory.latest = some (e, some time) → Found st t₀ moves e.rules time

theorem Found.mono {moves' : List Move} (h : Found st t₀ moves rules time) (more : moves <+: moves') :
    Found st t₀ moves' rules time := by
  obtain ⟨i, earlier, later, before, among, pairs⟩ := h
  exact ⟨i, earlier, later, before, among.trans more, pairs⟩

theorem Warranted.mono {moves' : List Move} (h : Warranted st t₀ moves i g) (more : moves <+: moves') :
    Warranted st t₀ moves' i g := by
  unfold Warranted at h ⊢
  cases g with
  | keeping document rules => exact h
  | dating rules => exact h.mono more
  | recalling modified => exact fun time dated => (h time dated).mono more
  | reading modified => exact fun time dated => (h time dated).mono more
  | remembering locked rules modified => exact fun time dated => (h time dated).mono more
  | _ => trivial

theorem warranted_fail (g : Stage) (f : Fault) : Warranted st t₀ moves i (g.fail f) := by
  unfold Stage.fail
  split <;> trivial

/-- A step of a call is warranted by the steps before it and by what it finds. -/
theorem Warranted.step {g' : Stage} {s' : State} (h : Warranted st t₀ moves i g)
    (call : (t₀.after st moves).calls[i]? = some g) (goes : g.Goes st (t₀.after st moves).state g' s')
    (reached : (t₀.after st (moves ++ [.go i])).calls[i]? = some g')
    (state : (t₀.after st (moves ++ [.go i])).state = s') : Warranted st t₀ (moves ++ [.go i]) i g' := by
  have more : moves <+: moves ++ [.go i] := List.prefix_append _ _
  cases goes with
  | @stale locked => cases locked <;> trivial
  | @fresh locked => cases locked <;> trivial
  | @locked forced => cases forced <;> trivial
  | @remembered locked => cases locked <;> trivial
  | failed => exact warranted_fail _ _
  | accepted _ _ read => exact read
  | verified _ _ read => exact read
  | kept =>
    refine ⟨moves ++ [.go i], List.prefix_rfl, reached, ?_⟩
    rw [shelf, state]
    exact holds_keeping h _
  | dated =>
    intro time dated
    obtain ⟨earlier, among, kept, held⟩ := h
    exact ⟨i, earlier, moves, among, List.prefix_rfl, .downloading kept held call dated⟩
  | asked =>
    intro time dated
    rw [dated] at reached
    refine ⟨moves ++ [.go i], List.prefix_rfl, reached, ?_⟩
    rw [shelf, state, dated]
  | unknown => exact h.mono more
  | read held =>
    rintro time rfl
    obtain ⟨earlier, among, asked, dated⟩ := h time rfl
    exact ⟨i, earlier, moves, among, List.prefix_rfl, .loading asked dated call held⟩
  | _ => trivial

theorem accounted_start {s : State} (unasked : s.memory.latest = none) : Accounted st (start s) [] := by
  refine ⟨fun i g call => ?_, fun e time h => ?_⟩
  · have none : ([] : List Stage)[i]? = some g := call
    cases none
  · have latest : s.memory.latest = some (e, some time) := h
    rw [unasked] at latest
    cases latest

/-- What there was before the last move is accounted for still, so only what is new must be. -/
theorem Accounted.of_next {m : Move} {t : Threads} (h : Accounted st t₀ moves)
    (next : t₀.after st (moves ++ [m]) = t)
    (calls : ∀ i g, t.calls[i]? = some g →
      (t₀.after st moves).calls[i]? = some g ∨ Warranted st t₀ (moves ++ [m]) i g)
    (memory : ∀ e time, t.state.memory.latest = some (e, some time) →
      (t₀.after st moves).state.memory.latest = some (e, some time) ∨ Found st t₀ (moves ++ [m]) e.rules time) :
    Accounted st t₀ (moves ++ [m]) := by
  have more : moves <+: moves ++ [m] := List.prefix_append _ _
  refine ⟨fun i g call => ?_, fun e time latest => ?_⟩
  · rcases calls i g (next ▸ call) with old | new
    · exact (h.calls i g old).mono more
    · exact new
  · rcases memory e time (next ▸ latest) with old | new
    · exact (h.memory e time old).mono more
    · exact new

theorem Accounted.move (h : Accounted st t₀ moves) (m : Move) : Accounted st t₀ (moves ++ [m]) := by
  have next := after_concat st t₀ moves m
  cases m with
  | call forced =>
    refine h.of_next next (fun i g call => ?_) fun _ _ => .inl
    rcases begun_cases call with old | ⟨_, rfl⟩
    · exact .inl old
    · right
      cases forced <;> trivial
  | change c => exact h.of_next next (fun _ _ => .inl) fun _ _ => .inl
  | go i =>
    rcases go_cases st (t₀.after st moves) i with stands | ⟨g, call, _, moved⟩
    · exact h.of_next (next.trans stands) (fun _ _ => .inl) fun _ _ => .inl
    have goes := Stage.step_goes st g (t₀.after st moves).state
    have warranted := h.calls i g call
    refine h.of_next (next.trans moved) (fun k g' call' => ?_) fun e time latest => ?_
    · rcases stepped_cases call' with ⟨rfl, rfl⟩ | ⟨_, still⟩
      · right
        refine warranted.step call goes ?_ ?_ <;> rw [next, moved]
        exact call'
      · exact .inl still
    · refine (goes.latest latest).imp_right fun ⟨locked, at_hand⟩ => ?_
      rw [at_hand] at warranted
      exact (warranted time rfl).mono (List.prefix_append _ _)

/-- By induction from the end of a run, as what a call has behind it is said of all moves so far. -/
theorem accounted_after {s : State} (unasked : s.memory.latest = none) (moves : List Move) :
    Accounted st (start s) moves := by
  induction moves using List.reverseRecOn with
  | nil => exact accounted_start unasked
  | append_singleton moves m ih => exact ih.move m

/-- If nothing came to the path between the two looks of a call, it found the time of the document with the rules. -/
theorem Pairs.held {first second : Threads} (h : Pairs i rules time first second)
    (same : first.shelf.spot = second.shelf.spot) :
    first.shelf.Holds rules ∧ first.shelf.spot.time? = some time := by
  cases h with
  | loading _ dated _ held =>
    obtain ⟨content, modified, document, file, read⟩ := held
    exact ⟨⟨content, modified, document, same.trans file, read⟩, dated⟩
  | downloading _ held _ dated => exact ⟨held, same ▸ dated⟩

/-- However many threads ask a store, in whatever order their calls take their steps and whatever happens to the world
in between: rules that the store remembers for a time are those of a document that was in the cache, under that time,
at some moment, unless something else came to the cache's path between the two looks of the call that remembered them.
Then the time is what it found at the one look, and the rules are those it read, or kept, at the other. When the cache
has this time and is fresh, the store hands out these rules. -/
theorem remembered_for_time (st : Store) {s : State} (unasked : s.memory.latest = none) (moves : List Move)
    {e : Edition} {time : Int}
    (remembered : ((start s).after st moves).state.memory.latest = some (e, some time)) :
    (Once st (start s) moves (fun t => t.shelf.Holds e.rules ∧ t.shelf.spot.time? = some time) ∨
      Overtaken st (start s) moves e.rules time) ∧
    (((start s).after st moves).shelf.spot.time? = some time → st.IsFresh ((start s).after st moves).state.world →
      st.get ((start s).after st moves).state = (.ok e, ((start s).after st moves).state)) := by
  refine ⟨?_, fun dated fresh => get_of_remembers ⟨time, remembered, dated⟩ fresh⟩
  obtain ⟨i, earlier, later, before, among, pairs⟩ := (accounted_after unasked moves).memory e time remembered
  by_cases same : ((start s).after st earlier).shelf.spot = ((start s).after st later).shelf.spot
  · exact .inl ⟨earlier, before.trans ((List.prefix_append _ _).trans among), pairs.held same⟩
  · exact .inr ⟨i, earlier, later, before, among, same, pairs⟩

/-- A server that has rules without providers first, and then one with a provider. -/
def twoEditions : State := .start 10 ⟨[.reply 200 noProviders, .reply 200 oneProvider], []⟩

/-- A call asks for the time of the cache, another downloads, and then the first reads. -/
def whileReading : List Move :=
  .call false :: List.replicate 11 (.go 0) ++ [.change (.advance 5), .call false] ++ List.replicate 3 (.go 1) ++
    .call true :: List.replicate 6 (.go 2) ++ List.replicate 3 (.go 1)

/-- A call keeps a document, another process writes the cache, and then the call asks for the time. -/
def whileDating : List Move :=
  .call true :: List.replicate 3 (.go 0) ++ .change (.write ⟨oneProvider, 5⟩) :: List.replicate 3 (.go 0)

/-- What a memory holds, as far as it shows. -/
def Shows (m : Memory) (names : List Text) (time : Int) : Prop :=
  m.latest.map (fun (e, t) => (e.rules.names, t)) = some (names, some time)

instance (m : Memory) (names : List Text) (time : Int) : Decidable (Shows m names time) :=
  inferInstanceAs (Decidable (_ = _))

theorem Shows.latest {m : Memory} {names : List Text} (h : Shows m names time) :
    ∃ e, m.latest = some (e, some time) ∧ e.rules.names = names := by
  obtain ⟨⟨e, _⟩, latest, shown⟩ := Option.map_eq_some_iff.mp h
  obtain ⟨rfl, rfl⟩ := Prod.mk.inj shown
  exact ⟨e, latest, rfl⟩

/-- The rules are those that the call kept, the time is that of the other process. -/
theorem dated_by_another :
    twoEditions.memory.latest = none ∧ ∃ t e, (start twoEditions).after patient whileDating = t ∧
      t.state.memory.latest = some (e, some 5) ∧
      (Once patient (start twoEditions) whileDating (fun t => t.shelf.Holds e.rules ∧ t.shelf.spot.time? = some 5) ∨
        Overtaken patient (start twoEditions) whileDating e.rules 5) ∧
      patient.get t.state = (.ok e, t.state) := by
  have shows : Shows ((start twoEditions).after patient whileDating).state.memory [] 5 := by decide +kernel
  have time : ((start twoEditions).after patient whileDating).shelf.spot.time? = some 5 := by decide +kernel
  have now : ((start twoEditions).after patient whileDating).state.world.now = 10 := by decide +kernel
  have unasked : twoEditions.memory.latest = none := rfl
  obtain ⟨e, remembered, _⟩ := shows.latest
  obtain ⟨found, handed⟩ := remembered_for_time patient unasked whileDating remembered
  obtain ⟨t, reached⟩ : ∃ t, (start twoEditions).after patient whileDating = t := ⟨_, rfl⟩
  rw [reached] at remembered time now handed
  have fresh : patient.IsFresh t.state.world := ⟨5, time, by rw [now]; decide⟩
  exact ⟨unasked, t, e, reached, remembered, found, handed time fresh⟩

/-- Rules with other providers than the only document that was in the cache under a time. -/
theorem not_once {d : Text} {found : Ruleset} (read : Ruleset.ofText d = .ok found) (other : rules.names ≠ found.names)
    (only : ∀ earlier ∈ moves.inits, (t₀.after st earlier).shelf.spot.time? = some time →
      (t₀.after st earlier).shelf.spot = .file (Bytes.Utf8.encode d) time) :
    ¬ Once st t₀ moves fun t => t.shelf.Holds rules ∧ t.shelf.spot.time? = some time := by
  rintro ⟨earlier, among, ⟨content, modified, document, file, decoded, held⟩, dated⟩
  have same := file.symm.trans (only earlier ((List.mem_inits _ _).mpr among) dated)
  obtain rfl : content = Bytes.Utf8.encode d := (Cache.Spot.file.inj same).1
  obtain rfl : d = document := Except.ok.inj ((Bytes.Utf8.decode_encode d).symm.trans decoded)
  exact other (congrArg Ruleset.names (Except.ok.inj (held.symm.trans read)))

/-- The entry of a call that was overtaken as it read, or as it asked for the time, is of two files. When the first
file is back, it is taken for the second. -/
theorem one_entry_of_two_files :
    (∃ e, ((start twoEditions).after patient whileReading).state.memory.latest = some (e, some 10) ∧
      ¬ Once patient (start twoEditions) whileReading fun t =>
        t.shelf.Holds e.rules ∧ t.shelf.spot.time? = some 10) ∧
    (∃ e, ((start twoEditions).after patient whileDating).state.memory.latest = some (e, some 5) ∧
      ¬ Once patient (start twoEditions) whileDating fun t =>
        t.shelf.Holds e.rules ∧ t.shelf.spot.time? = some 5) ∧
    ∃ t, (start twoEditions).after patient (whileReading ++ [.change (.write ⟨noProviders, 5⟩)]) = t ∧
      t.shelf.spot = .file noProviders 10 ∧ (patient.get t.state).1.map (·.rules.names) = .ok ["shop".toList] := by
  have none : (Ruleset.ofText "\x7b\"providers\":\x7b\x7d\x7d".toList).map (·.names) = .ok [] := by decide +kernel
  have shop : (Ruleset.ofText "\x7b\"providers\":\x7b\"shop\":\x7b\"urlPattern\":\"shop\"\x7d\x7d\x7d".toList).map
    (·.names) = .ok ["shop".toList] := by decide +kernel
  obtain ⟨noRules, readNone, none⟩ := except_map_ok.mp none
  obtain ⟨oneRule, readShop, shop⟩ := except_map_ok.mp shop
  refine ⟨?_, ?_, _, rfl, ?_, ?_⟩
  · have shows : Shows ((start twoEditions).after patient whileReading).state.memory ["shop".toList] 10 := by
      decide +kernel
    have only : ∀ earlier ∈ whileReading.inits,
        ((start twoEditions).after patient earlier).shelf.spot.time? = some 10 →
          ((start twoEditions).after patient earlier).shelf.spot = .file noProviders 10 := by decide +kernel
    obtain ⟨e, latest, names⟩ := shows.latest
    exact ⟨e, latest, not_once readNone (by rw [names, none]; decide) only⟩
  · have shows : Shows ((start twoEditions).after patient whileDating).state.memory [] 5 := by decide +kernel
    have only : ∀ earlier ∈ whileDating.inits,
        ((start twoEditions).after patient earlier).shelf.spot.time? = some 5 →
          ((start twoEditions).after patient earlier).shelf.spot = .file oneProvider 5 := by decide +kernel
    obtain ⟨e, latest, names⟩ := shows.latest
    exact ⟨e, latest, not_once readShop (by rw [names, shop]; decide) only⟩
  · decide +kernel
  · decide +kernel

end Threads
end Untrack.Store
