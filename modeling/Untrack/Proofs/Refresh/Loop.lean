/-
  Untrack.Proofs.Refresh.Loop — the loop that keeps the cache fresh is one round after the other
  (`loop_is_rounds`). Whenever it is told to stop, it finishes the round that it is in and begins no other; so far it
  has done what that many rounds do, run on their own in turn, whose faults are passed over. A round that fails in
  another way ends it.

  At every moment the loop is where its rounds have brought it, perhaps with a part of the next one done
  (`Loop.Stands`); each step keeps to that, whatever it is. A loop that cannot begin another round has at most four
  steps left (`after_of_last`).
-/

import Untrack.Proofs.Refresh.Rounds
import Untrack.Refresh.Loop

namespace Untrack.Refresh

variable {r : Refresh} {w : World} {n : Nat}

/-! ## One step of the loop -/

/-- A round, by what it waits for. -/
theorem runOnce_steps (r : Refresh) (w : World) :
    r.runOnce w = match Download.rulesInSession r.source w with
      | (.error f, w) => (.error f, w)
      | (.ok document, w) => if r.source.verifies then r.verify document w else r.keep document w := by
  unfold runOnce
  rw [bind_run]
  rcases Download.rulesInSession r.source w with ⟨f | document, w⟩
  · rfl
  by_cases hv : r.source.verifies = true
  · simp only [hv, if_true]
    rfl
  · simp only [hv]
    rfl

namespace Loop

variable {l : Loop}

/-- A stage, whether the loop was told to stop, and the world then, seen from the world that the last round left. -/
inductive Follows (r : Refresh) (left : World) : Stage → Bool → World → Prop
  | looking {stopped : Bool} : Follows r left .looking stopped left
  | fetching {stopped : Bool} : Follows r left .fetching stopped left
  | verifying {stopped : Bool} {document : Text} {w : World} : r.source.verifies = true →
      Download.rulesInSession r.source left = (.ok document, w) → Follows r left (.verifying document) stopped w
  | pausing {stopped : Bool} : Follows r left .pausing stopped left
  | stopped : Follows r left (.ended none) true left
  | escaped {stopped : Bool} {f : Fault} {w : World} : r.runOnce left = (.error f, w) → f.isOfRules = false →
      Follows r left (.ended (some f)) stopped w

/-- The loop is where its rounds have brought it from a world, with a part of the next one done if it is in it. -/
structure Stands (r : Refresh) (w : World) (l : Loop) : Prop where
  outcomes : l.outcomes = r.outcomes w l.outcomes.length
  foreseen : r.Foreseen w l.outcomes.length
  follows : Follows r (r.afterRounds l.outcomes.length w) l.stage l.stopped l.world

theorem stands_start (r : Refresh) (w : World) : (start w).Stands r w := ⟨rfl, fun _ h => (nomatch h), .looking⟩

/-- A round that is over has its outcome noted, or ends the loop. -/
theorem Stands.conclude (h : l.Stands r w) {o : Except Fault Summary} {after : World}
    (round : r.runOnce (r.afterRounds l.outcomes.length w) = (o, after)) : (l.conclude (o, after)).Stands r w := by
  have both := (runOnce_afterRounds r l.outcomes.length w).symm.trans round
  obtain ⟨outcome, rfl⟩ := Prod.mk.inj both
  have noted : (∀ f, o = .error f → f.isOfRules = true) →
      Stands r w ⟨r.afterRounds (l.outcomes.length + 1) w, l.stopped, .pausing, l.outcomes ++ [o]⟩ := by
    intro hf
    have longer : (l.outcomes ++ [o]).length = l.outcomes.length + 1 := by simp
    refine ⟨?_, ?_, ?_⟩
    · dsimp only
      rw [longer, outcomes_succ, ← h.outcomes, outcome]
    · dsimp only
      rw [longer]
      exact h.foreseen.succ fun f e => hf f (outcome ▸ e)
    · dsimp only
      rw [longer]
      exact .pausing
  cases o with
  | ok s => exact noted nofun
  | error f =>
    by_cases hf : f.isOfRules = true
    · have passed := noted fun g e => by
        cases e
        exact hf
      simpa only [Loop.conclude, hf, if_true] using passed
    · simp only [Loop.conclude, hf]
      exact ⟨h.outcomes, h.foreseen, .escaped round (Bool.eq_false_iff.mpr hf)⟩

/-- The loop's next step keeps to its rounds. -/
theorem Stands.go (h : l.Stands r w) : (l.go r).Stands r w := by
  have conclude := @h.conclude
  obtain ⟨outcomes, foreseen, follows⟩ := h
  obtain ⟨world, stopped, stage, done⟩ := l
  dsimp only at outcomes foreseen follows conclude
  cases follows with
  | looking =>
    refine ⟨outcomes, foreseen, ?_⟩
    cases stopped
    · exact .fetching
    · exact .stopped
  | fetching =>
    have round := runOnce_steps r (r.afterRounds done.length w)
    unfold Loop.go
    rcases hr : Download.rulesInSession r.source (r.afterRounds done.length w) with ⟨f | document, after⟩ <;>
      rw [hr] at round <;> dsimp only at round ⊢
    · exact conclude round
    · by_cases hv : r.source.verifies = true
      · rw [if_pos hv]
        exact ⟨outcomes, foreseen, .verifying hv hr⟩
      · rw [if_neg hv] at round ⊢
        exact conclude round
  | verifying hv hr =>
    have round := runOnce_steps r (r.afterRounds done.length w)
    rw [hr] at round
    dsimp only at round
    rw [if_pos hv] at round
    exact conclude round
  | pausing => exact ⟨outcomes, foreseen, .looking⟩
  | stopped => exact ⟨outcomes, foreseen, .stopped⟩
  | escaped round hf => exact ⟨outcomes, foreseen, .escaped round hf⟩

/-- Being told to stop does not touch the rounds. -/
theorem Stands.stop (h : l.Stands r w) : ({ l with stopped := true } : Loop).Stands r w := by
  obtain ⟨outcomes, foreseen, follows⟩ := h
  obtain ⟨world, stopped, stage, done⟩ := l
  refine ⟨outcomes, foreseen, ?_⟩
  dsimp only at follows ⊢
  cases follows with
  | looking => exact .looking
  | fetching => exact .fetching
  | verifying hv hr => exact .verifying hv hr
  | pausing => exact .pausing
  | stopped => exact .stopped
  | escaped round hf => exact .escaped round hf

theorem Stands.after (h : l.Stands r w) (moves : List Move) : (l.after r moves).Stands r w := by
  induction moves generalizing l with
  | nil => exact h
  | cons m moves ih =>
    cases m with
    | go => exact ih h.go
    | stop => exact ih h.stop

/-- A loop that is over was told to stop, or its last round failed as no one foresaw. -/
theorem Stands.of_ended {e : Option Fault} (h : l.Stands r w) (ended : l.stage = .ended e) :
    (e = none ∧ l.stopped = true ∧ l.world = r.afterRounds l.outcomes.length w) ∨
      ∃ f, e = some f ∧ r.outcome w l.outcomes.length = .error f ∧ f.isOfRules = false ∧
        l.world = r.afterRounds (l.outcomes.length + 1) w := by
  obtain ⟨outcomes, foreseen, follows⟩ := h
  obtain ⟨world, stopped, stage, done⟩ := l
  dsimp only at ended follows ⊢
  subst ended
  cases follows with
  | stopped => exact Or.inl ⟨rfl, rfl, rfl⟩
  | escaped round escapes =>
    rw [runOnce_afterRounds] at round
    obtain ⟨outcome, after⟩ := Prod.mk.inj round
    exact Or.inr ⟨_, rfl, outcome, escapes, after.symm⟩

end Loop

/-! ## Rounds begun -/

/-- Whether the loop is in a round, or was in one when it ended. -/
def Stage.inRound : Stage → Bool
  | .fetching | .verifying _ | .ended (some _) => true
  | .looking | .pausing | .ended none => false

/-- How many steps the loop has left at most if it begins no other round. -/
def Stage.left : Stage → Nat
  | .fetching => 4
  | .verifying _ => 3
  | .pausing => 2
  | .looking => 1
  | .ended _ => 0

theorem Stage.left_le (g : Stage) : g.left ≤ 4 := by
  cases g <;> simp [Stage.left]

theorem Stage.left_eq_zero {g : Stage} : g.left = 0 ↔ ∃ f, g = .ended f := by
  cases g <;> simp [Stage.left]

namespace Loop

variable {l : Loop}

/-- How many rounds the loop has begun. -/
def begun (l : Loop) : Nat := l.outcomes.length + l.stage.inRound.toNat

theorem after_append (r : Refresh) (before later : List Move) (l : Loop) :
    l.after r (before ++ later) = (l.after r before).after r later := List.foldl_append

theorem conclude_cases (l : Loop) (round : Except Fault Summary × World) :
    (∃ o, l.conclude round = { l with world := round.2, stage := .pausing, outcomes := l.outcomes ++ [o] }) ∨
      ∃ f, l.conclude round = { l with world := round.2, stage := .ended (some f) } := by
  rcases round with ⟨f | s, world⟩
  · by_cases hf : f.isOfRules = true
    · exact Or.inl ⟨.error f, by simp [conclude, hf]⟩
    · exact Or.inr ⟨f, by simp [conclude, hf]⟩
  · exact Or.inl ⟨.ok s, rfl⟩

/-- A round that comes to an end is still one of those begun, and leaves a pause and a look at most. -/
theorem conclude_begun (inside : l.stage.inRound = true) (round : Except Fault Summary × World) :
    (l.conclude round).stopped = l.stopped ∧ (l.conclude round).begun = l.begun ∧
      (l.conclude round).stage.left ≤ 2 := by
  rcases l.conclude_cases round with ⟨o, e⟩ | ⟨f, e⟩ <;> rw [e, begun, begun, inside]
  · simp [Stage.inRound, Stage.left]
  · simp [Stage.inRound, Stage.left]

/-- A step that begins no round brings the loop closer to its end. -/
theorem go_of_last (r : Refresh) (h : l.stage = .looking → l.stopped = true) :
    (l.go r).stopped = l.stopped ∧ (l.go r).begun = l.begun ∧ (l.go r).stage.left ≤ l.stage.left - 1 := by
  obtain ⟨world, stopped, stage, done⟩ := l
  cases stage with
  | looking =>
    obtain rfl : stopped = true := h rfl
    exact ⟨rfl, rfl, Nat.zero_le _⟩
  | fetching =>
    have inside := @conclude_begun ⟨world, stopped, .fetching, done⟩ rfl
    unfold go
    dsimp only
    rcases Download.rulesInSession r.source world with ⟨f | document, after⟩
    · obtain ⟨same, begun, left⟩ := inside (.error f, after)
      exact ⟨same, begun, Nat.le_trans left (by decide)⟩
    · dsimp only
      split
      · simp [begun, Stage.inRound, Stage.left]
      · obtain ⟨same, begun, left⟩ := inside (r.keep document after)
        exact ⟨same, begun, Nat.le_trans left (by decide)⟩
  | verifying document => exact @conclude_begun ⟨world, stopped, .verifying document, done⟩ rfl _
  | pausing => simp [go, begun, Stage.inRound, Stage.left]
  | ended f => simp [go, begun, Stage.left]

/-- A loop that begins no other round, whatever comes, goes a step towards its end whenever it can. -/
theorem after_of_last {P : Loop → Prop} (keeps : ∀ l m, P l → P (l.move r m))
    (last : ∀ l, P l → l.stage = .looking → l.stopped = true) (h : P l) (moves : List Move) :
    P (l.after r moves) ∧ (l.after r moves).begun = l.begun ∧
      (l.after r moves).stage.left ≤ l.stage.left - moves.count .go := by
  induction moves generalizing l with
  | nil => exact ⟨h, rfl, Nat.le_refl _⟩
  | cons m moves ih =>
    obtain ⟨kept, begun, left⟩ := ih (keeps l m h)
    refine ⟨kept, ?_⟩
    show ((l.move r m).after r moves).begun = l.begun ∧ ((l.move r m).after r moves).stage.left ≤ _
    rw [begun]
    cases m with
    | go =>
      obtain ⟨_, begun', left'⟩ := go_of_last r (last l h)
      refine ⟨begun', Nat.le_trans left ?_⟩
      rw [List.count_cons_self]
      show (l.go r).stage.left - _ ≤ _
      omega
    | stop =>
      refine ⟨rfl, Nat.le_trans left ?_⟩
      rw [List.count_cons_of_ne (by decide)]
      exact Nat.le_refl _

/-- Told to stop, the loop begins no other round and ends in a few steps. -/
theorem after_of_stopped (h : l.stopped = true) (moves : List Move) :
    (l.after r moves).begun = l.begun ∧ (4 ≤ moves.count .go → ∃ f, (l.after r moves).stage = .ended f) := by
  have keeps : ∀ (l : Loop) (m : Move), l.stopped = true → (l.move r m).stopped = true := by
    intro l m h
    cases m with
    | go => exact (go_of_last r fun _ => h).1.trans h
    | stop => rfl
  obtain ⟨_, begun, left⟩ := after_of_last keeps (fun l h _ => h) h moves
  refine ⟨begun, fun long => Stage.left_eq_zero.mp ?_⟩
  have := l.stage.left_le
  omega

/-- A loop in a round that fails as no one foresaw begins no other and ends in a few steps. -/
theorem Stands.after_of_escape {f : Fault} (h : l.Stands r w) (outcome : r.outcome w n = .error f)
    (escapes : f.isOfRules = false) (begun : l.begun = n + 1) {moves : List Move} (long : 4 ≤ moves.count .go) :
    (l.after r moves).Stands r w ∧ (l.after r moves).begun = n + 1 ∧ ∃ f, (l.after r moves).stage = .ended f := by
  have last : ∀ l : Loop, (l.Stands r w ∧ l.begun = n + 1) → l.stage = .looking → l.stopped = true := by
    rintro l ⟨stands, begun⟩ looking
    have done : l.outcomes.length = n + 1 := by simpa [Loop.begun, looking, Stage.inRound] using begun
    exact absurd escapes (stands.foreseen.not_escapes (by omega) outcome)
  have keeps : ∀ (l : Loop) (m : Move), (l.Stands r w ∧ l.begun = n + 1) →
      ((l.move r m).Stands r w ∧ (l.move r m).begun = n + 1) := by
    rintro l m ⟨stands, begun⟩
    cases m with
    | go => exact ⟨stands.go, (go_of_last r (last l ⟨stands, begun⟩)).2.1.trans begun⟩
    | stop => exact ⟨stands.stop, begun⟩
  obtain ⟨⟨stands, begun⟩, _, left⟩ := after_of_last keeps last ⟨h, begun⟩ moves
  refine ⟨stands, begun, Stage.left_eq_zero.mp ?_⟩
  have := l.stage.left_le
  omega

/-- As long as it is not told to stop and its rounds fail as foreseen, the loop begins another round. -/
theorem Stands.goes_on (h : l.Stands r w) (running : l.stopped = false) (foreseen : r.Foreseen w l.begun) :
    ∃ m, (l.after r (.replicate m .go)).stopped = false ∧ (l.after r (.replicate m .go)).begun = l.begun + 1 := by
  -- by the number of steps to the next look
  induction hk : l.stage.left using Nat.strong_induction_on generalizing l with
  | _ k ih =>
  by_cases looking : l.stage = .looking
  · obtain ⟨world, stopped, stage, done⟩ := l
    dsimp only at looking running
    subst looking running
    exact ⟨1, rfl, rfl⟩
  have live : 0 < l.stage.left := by
    refine Nat.pos_of_ne_zero fun none => ?_
    obtain ⟨e, ended⟩ := Stage.left_eq_zero.mp none
    rcases h.of_ended ended with ⟨rfl, told, _⟩ | ⟨f, rfl, outcome, escapes, _⟩
    · rw [running] at told
      cases told
    · exact absurd escapes (foreseen.not_escapes (by simp [begun, ended, Stage.inRound]) outcome)
  obtain ⟨same, begun, left⟩ := go_of_last r fun e => absurd e looking
  obtain ⟨m, running', more⟩ := ih (l.go r).stage.left (by omega) h.go (same.trans running) (begun ▸ foreseen) rfl
  exact ⟨m + 1, running', more.trans (congrArg (· + 1) begun)⟩

theorem begins (r : Refresh) (w : World) (foreseen : r.Foreseen w n) :
    ∃ m, ((start w).after r (.replicate m .go)).stopped = false ∧
      ((start w).after r (.replicate m .go)).begun = n + 1 := by
  induction n with
  | zero => exact (stands_start r w).goes_on rfl foreseen
  | succ n ih =>
    obtain ⟨m, running, begun⟩ := ih (foreseen.mono (Nat.le_succ n))
    have stands := (stands_start r w).after (.replicate m .go)
    obtain ⟨k, running', more⟩ := stands.goes_on running (begun ▸ foreseen)
    rw [← after_append, List.replicate_append_replicate] at running' more
    exact ⟨m + k, running', more.trans (congrArg (· + 1) begun)⟩

/-! ## The loop and its rounds -/

/-- The loop has ended as it was told to, and so many rounds run on their own do what it has done: the world with its
cache, its server and the requests made is the same, and so is what came of each round. The cache is what it was if none
of them succeeded, and otherwise the body that the last successful one was sent. -/
structure EndedAfter (r : Refresh) (w : World) (n : Nat) (l : Loop) : Prop where
  ended : l.stage = .ended none
  outcomes : l.outcomes = r.outcomes w n
  world : l.world = r.afterRounds n w
  rounds : r.runRounds n w = (.ok l.outcomes, l.world)
  cache : ((∀ i < n, ∀ s, r.outcome w i ≠ .ok s) ∧ l.world.shelf = w.shelf) ∨
    ∃ i body, r.LastSuccess w n i ∧ r.source.rulesResponse (r.afterRounds i w) = .reply 200 body ∧
      l.world.shelf.spot = .file body w.now

/-- A fault has ended the loop in the round after so many others, and the world is as this round has left it. -/
structure EscapedAfter (r : Refresh) (w : World) (n : Nat) (f : Fault) (l : Loop) : Prop where
  ended : l.stage = .ended (some f)
  outcomes : l.outcomes = r.outcomes w n
  world : l.world = r.afterRounds (n + 1) w
  rounds : ∀ k, n < k → r.runRounds k w = (.error f, l.world)

/-- Told to stop in a round or between two, the loop ends after as many rounds as it has begun. -/
theorem Stands.ended_after (h : l.Stands r w) (foreseen : r.Foreseen w n) (begun : l.begun = n) {e : Option Fault}
    (ended : l.stage = .ended e) : l.EndedAfter r w n := by
  rcases h.of_ended ended with ⟨rfl, _, world⟩ | ⟨f, rfl, outcome, escapes, _⟩
  · have length : l.outcomes.length = n := by simpa [Loop.begun, ended, Stage.inRound] using begun
    have outcomes := h.outcomes
    rw [length] at outcomes world
    refine ⟨ended, outcomes, world, ?_, ?_⟩
    · rw [runRounds_of_foreseen foreseen, outcomes, world]
    · rw [world]
      rcases none_or_lastSuccess r w n with failing | ⟨i, last⟩
      · exact Or.inl ⟨failing, shelf_afterRounds (Nat.zero_le n) fun j _ hj => failing j hj⟩
      · obtain ⟨body, sent, kept⟩ := Refresh.kept last
        exact Or.inr ⟨i, body, last, sent, kept⟩
  · have last : l.outcomes.length < n := by
      rw [← begun]
      simp [Loop.begun, ended, Stage.inRound]
    exact absurd escapes (foreseen.not_escapes last outcome)

theorem Stands.escaped_after {f : Fault} (h : l.Stands r w) (foreseen : r.Foreseen w n)
    (outcome : r.outcome w n = .error f) (escapes : f.isOfRules = false) (begun : l.begun = n + 1) {e : Option Fault}
    (ended : l.stage = .ended e) : l.EscapedAfter r w n f := by
  rcases h.of_ended ended with ⟨rfl, _, _⟩ | ⟨g, rfl, fails, _, world⟩
  · have length : l.outcomes.length = n + 1 := by simpa [Loop.begun, ended, Stage.inRound] using begun
    exact absurd escapes (h.foreseen.not_escapes (by omega) outcome)
  · have length : l.outcomes.length = n := by simpa [Loop.begun, ended, Stage.inRound] using begun
    have outcomes := h.outcomes
    rw [length] at outcomes fails world
    obtain rfl : g = f := Except.error.inj (fails.symm.trans outcome)
    refine ⟨ended, outcomes, world, fun k hk => ?_⟩
    have rounds := runRounds_of_escape foreseen outcome escapes k 0 (Nat.zero_le n) (by omega)
    rw [world]
    exact rounds

/-- The loop is one round after the other. From whatever world it starts, and however the server answers: as long as its
rounds fail only as foreseen, it begins the next one. Told to stop when it has begun so many, it begins no other, and
has ended after them once it has taken a few more steps, whatever else happens. A round that fails as no one foresaw
ends it there, whether it is told to stop or not. -/
theorem loop_is_rounds (r : Refresh) (w : World) (n : Nat) (foreseen : r.Foreseen w n) :
    (∃ m, ((start w).after r (.replicate m .go)).begun = n + 1) ∧
      (∀ before later, ((start w).after r before).begun = n →
        ((start w).after r (before ++ .stop :: later)).begun = n ∧
          (4 ≤ later.count .go → ((start w).after r (before ++ .stop :: later)).EndedAfter r w n)) ∧
      ∀ f, r.outcome w n = .error f → f.isOfRules = false → ∀ before later,
        ((start w).after r before).begun = n + 1 → 4 ≤ later.count .go →
          ((start w).after r (before ++ later)).EscapedAfter r w n f := by
  have stands : ∀ moves, ((start w).after r moves).Stands r w := fun moves => (stands_start r w).after moves
  refine ⟨?_, fun before later begun => ?_, fun f outcome escapes before later begun long => ?_⟩
  · obtain ⟨m, _, begun⟩ := begins r w foreseen
    exact ⟨m, begun⟩
  · have told := stands (before ++ .stop :: later)
    rw [after_append] at told ⊢
    obtain ⟨same, ends⟩ := after_of_stopped (r := r) (l := { (start w).after r before with stopped := true }) rfl later
    have begun' := same.trans begun
    refine ⟨begun', fun long => ?_⟩
    obtain ⟨e, ended⟩ := ends long
    exact told.ended_after foreseen begun' ended
  · rw [after_append]
    obtain ⟨escaped, begun', e, ended⟩ := (stands before).after_of_escape outcome escapes begun long
    exact escaped.escaped_after foreseen outcome escapes begun' ended

/-- Rules with a pattern that asks for more than any count may. -/
def overcounted : Bytes :=
  Bytes.Utf8.encode "\x7b\"providers\":\x7b\"p\":\x7b\"urlPattern\":\"a\x7b4294967295\x7d\"\x7d\x7d\x7d".toList

/-- A network that fails, then rules, then a server that is broken, and last the rules that ask for too much. -/
def fickle : World :=
  .start 10 ⟨[.failure "down".toList, .reply 200 Store.oneProvider, .reply 500 [], .reply 200 overcounted], []⟩

/-- Told to stop in the third round, the loop ends after it, with the rules of the second in the cache. Not told to
stop, it ends in the fourth round. -/
theorem fickle_rounds :
    let r := Store.patient.refresher
    let stopped := (start fickle).after r (.replicate 7 .go ++ .stop :: .replicate 4 .go)
    let escaped := (start fickle).after r (.replicate 10 .go ++ .replicate 4 .go)
    ((start fickle).after r (.replicate 7 .go)).stage = .fetching ∧ r.Foreseen fickle 3 ∧
      stopped.EndedAfter r fickle 3 ∧ stopped.world.requests.length = 3 ∧ stopped.world.server.rules.length = 1 ∧
      stopped.world.shelf.spot = .file Store.oneProvider 10 ∧
      ∃ f, escaped.EscapedAfter r fickle 3 f ∧ escaped.world.requests.length = 4 ∧
        escaped.world.shelf.spot = .file Store.oneProvider 10 := by
  intro r stopped escaped
  have foreseen : r.Foreseen fickle 3 := by decide +kernel
  have second : r.LastSuccess fickle 3 1 := by
    refine ⟨by decide, ⟨⟨1, "cache/rules".toList⟩, by decide +kernel⟩, fun j above below s => ?_⟩
    obtain rfl : j = 2 := by omega
    have fails : r.outcome fickle 2 = .error (.fetch (.status "http://host/rules".toList 500)) := by decide +kernel
    rw [fails]
    exact nofun
  have third : ((start fickle).after r (.replicate 7 .go)).stage = .fetching ∧
      ((start fickle).after r (.replicate 7 .go)).begun = 3 := by decide +kernel
  have fourth : ((start fickle).after r (.replicate 10 .go)).begun = 4 := by decide +kernel
  obtain ⟨_, told, escapes⟩ := loop_is_rounds r fickle 3 foreseen
  obtain ⟨_, ends⟩ := told (.replicate 7 .go) (.replicate 4 .go) third.2
  have stoppedAfter : stopped.EndedAfter r fickle 3 := ends (by decide)
  have spot : stopped.world.shelf.spot = .file Store.oneProvider 10 := by
    obtain ⟨s, succeeds⟩ := second.succeeds
    have answer : r.source.rulesResponse (r.afterRounds 1 fickle) = .reply 200 Store.oneProvider := by decide +kernel
    rcases stoppedAfter.cache with ⟨failing, _⟩ | ⟨i, body, last, sent, kept⟩
    · exact absurd succeeds (failing 1 (by decide) s)
    obtain rfl := second.unique last
    obtain ⟨_, rfl⟩ := Response.reply.inj (sent.symm.trans answer)
    exact kept
  have fails : r.outcome fickle 3 = .error (.rules (.provider "p".toList
      (.badPattern .urlPattern "a\x7b4294967295\x7d".toList .countTooLarge))) := by decide +kernel
  have escapedAfter := escapes _ fails rfl (.replicate 10 .go) (.replicate 4 .go) fourth (by decide)
  have asked : stopped.world.requests.length = 3 ∧ stopped.world.server.rules.length = 1 := by decide +kernel
  have last : escaped.world.requests.length = 4 ∧ escaped.world.shelf.spot = .file Store.oneProvider 10 := by
    decide +kernel
  exact ⟨third.1, foreseen, stoppedAfter, asked.1, asked.2, spot, _, escapedAfter, last⟩

end Loop
end Untrack.Refresh
