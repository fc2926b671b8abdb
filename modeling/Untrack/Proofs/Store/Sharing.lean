/-
  Untrack.Proofs.Store.Sharing — calls that find the cache stale share one download (`download_shared`). Any number of
  calls may look at the cache before one of them has the lock, and find it stale; each of them waits for the lock, and
  looks again once it has it.

  The invariant is where the run stands (`Course`). Until a document is kept the cache is as it was, so a call that
  looks at it goes for the lock, and only the one that has the lock gets further. From then on the cache is that
  document and fresh. A call may still judge by the time it had before, but that only makes it wait for the lock. All
  other calls load the cache, before or after the rules are remembered for it, and what they find is these rules.
-/

import Untrack.Proofs.Store.Entries
import Untrack.Proofs.Store.Escapes

namespace Untrack

/-- The addresses that a download asks for after that of the rules. -/
def Source.hashUrls (s : Source) : List Text := if s.verifies then [s.hashUrl] else []

namespace Store

variable {st : Store}

/-! ## Steps that fail -/

namespace Stage

/-- Whether a call at this stage is about to take the next step of a download. -/
def isOfDownload : Stage → Bool
  | fetching | verifying _ | keeping _ _ | dating _ => true
  | _ => false

/-- Apart from a download, a step fails only if the path of the cache leads nowhere or the cache holds no rules. -/
theorem error_cases {g : Stage} {s s' : State} {f : Fault} (h : g.next st s = (.error f, s')) :
    g.isOfDownload = true ∨ s.world.shelf.spot = .blocked ∨
      (∃ modified, g = reading modified) ∧ ∀ rules, ¬ s.world.shelf.Holds rules := by
  have asks : ∀ {k : Option Int → Job Stage}, (∀ modified, k modified s ≠ (.error f, s')) →
      ((liftM (Cache.modified? st.location) : Job _) >>= k) s = (.error f, s') → s.world.shelf.spot = .blocked := by
    intro k after h
    by_contra stat
    have seen : (liftM (Cache.modified? st.location) : Job _) s = (.ok s.world.shelf.spot.time?, s) := by
      rw [lift_run, Cache.modified?, Act.ofShelf_run, modified?_of_stat stat]
      rfl
    rw [bind_of_ok seen] at h
    exact after _ h
  cases g with
  | looking locked =>
    refine .inr (.inl (asks (fun _ found => ?_) h))
    cases found
  | asking =>
    refine .inr (.inl (asks (fun _ found => ?_) h))
    cases found
  | judging locked modified =>
    rcases bind_error h with h | ⟨now, _, seen, h⟩
    · cases h
    · split at h <;> cases h
  | waiting forced => cases h
  | fetching => exact .inl rfl
  | verifying document => exact .inl rfl
  | keeping document rules => exact .inl rfl
  | dating rules => exact .inl rfl
  | remembering locked rules modified =>
    rcases bind_error h with h | ⟨_, _, _, h⟩ <;> cases h
  | releasing outcome => cases outcome <;> cases h
  | recalling modified =>
    rcases bind_error h with h | ⟨memory, _, seen, h⟩
    · cases h
    · cases seen
      cases known : s.memory.recall? modified <;> rw [known] at h <;> cases h
  | reading modified =>
    refine .inr (.inr ⟨⟨modified, rfl⟩, ?_⟩)
    rintro rules ⟨content, time, document, file, decoded, read⟩
    have found : (Cache.document st.location s.world).1 = .ok document := by
      rw [document_outcome, Cache.Shelf.read, file]
      dsimp only
      rw [decoded, ok_mapError]
    rcases bind_error h with h | ⟨document', _, found', h⟩
    · rw [lift_run, found] at h
      cases h
    rw [lift_run, found] at found'
    cases found'
    rcases bind_error h with h | ⟨_, _, _, h⟩
    · rw [lift_run, Ruleset.parse_run, read] at h
      cases h
    · cases h
  | ended outcome => cases h

/-! ## Where calls stand -/

/-- Where a call may stand as long as nothing is kept, unless it is the one that downloads. -/
inductive Seeks (old : Option Int) : Stage → Prop
  | looking {locked : Bool} : Seeks old (looking locked)
  | judging {locked : Bool} : Seeks old (judging locked old)
  | waiting : Seeks old (waiting false)
  | fetching : Seeks old fetching

/-- Where a call may stand once a document with these rules is kept. It may have asked for the time before that. -/
inductive Finds (old : Option Int) (rules : Ruleset) (time : Int) : Stage → Prop
  | looking {locked : Bool} : Finds old rules time (looking locked)
  | judgingOld : Finds old rules time (judging false old)
  | judging {locked : Bool} : Finds old rules time (judging locked (some time))
  | waiting : Finds old rules time (waiting false)
  | dating : Finds old rules time (dating rules)
  | remembering {locked : Bool} : Finds old rules time (remembering locked rules (some time))
  | releasing : Finds old rules time (releasing none)
  | finishing {e : Edition} (found : e.rules = rules) : Finds old rules time (releasing (some (.ok e)))
  | asking : Finds old rules time asking
  | recalling : Finds old rules time (recalling (some time))
  | reading : Finds old rules time (reading (some time))
  | ended {e : Edition} (found : e.rules = rules) : Finds old rules time (ended (.ok e))

variable {old : Option Int} {rules : Ruleset} {time : Int} {g g' : Stage} {s s' : State}

/-- A call that seeks rules in a stale cache still does after its step and has changed nothing, unless it has fetched
them. -/
theorem Seeks.goes (h : g.Seeks old) (goes : g.Goes st s g' s') (current : s.world.shelf.spot.time? = old)
    (stat : s.world.shelf.spot ≠ .blocked) (stale : Cache.isOutdated st.maxAge s.world.now old = true)
    (succeeds : g.isOfDownload = true → ∀ f, (g.next st s).1 ≠ .error f) :
    g ≠ .fetching ∧ g'.Seeks old ∧ s' = s ∨
      g = .fetching ∧ ∃ document w, Download.rules st.source s.world = (.ok document, w) ∧ s' = { s with world := w } ∧
        (st.source.verifies = true ∧ g' = .verifying document ∨ st.source.verifies = false ∧
          ∃ rules, Ruleset.ofText document = .ok rules ∧ g' = .keeping document rules) := by
  cases goes with
  | looked =>
    rw [current]
    exact .inl ⟨nofun, .judging, rfl⟩
  | @stale locked =>
    cases locked
    · exact .inl ⟨nofun, .waiting, rfl⟩
    · exact .inl ⟨nofun, .fetching, rfl⟩
  | fresh outdated =>
    cases h
    rw [stale] at outdated
    cases outdated
  | locked =>
    cases h
    exact .inl ⟨nofun, .looking, rfl⟩
  | fetched fetch verifies => exact .inr ⟨rfl, _, _, fetch, rfl, .inl ⟨verifies, rfl⟩⟩
  | accepted fetch verifies read => exact .inr ⟨rfl, _, _, fetch, rfl, .inr ⟨verifies, _, read, rfl⟩⟩
  | failed run =>
    rcases error_cases run with download | blocked | ⟨⟨_, rfl⟩, _⟩
    · exact absurd (congrArg Prod.fst run) (succeeds download _)
    · exact absurd blocked stat
    · cases h
  | _ => cases h

/-- A call without the lock stands as well once something is kept. -/
theorem Seeks.finds (h : g.Seeks old) (unlocked : g.holdsLock = false) : g.Finds old rules time := by
  cases h with
  | looking => exact .looking
  | judging =>
    obtain rfl := unlocked
    exact .judgingOld
  | waiting => exact .waiting
  | fetching => cases unlocked

theorem Finds.ne_fetching (h : g.Finds old rules time) : g ≠ .fetching := by
  rintro rfl
  cases h

/-- Once the rules are kept and as long as they are fresh, a step of a call does no more than to remember them. -/
theorem Finds.goes {body : Bytes} {document : Text} (h : g.Finds old rules time) (goes : g.Goes st s g' s')
    (file : s.world.shelf.spot = .file body time) (decoded : Bytes.Utf8.decode body = .ok document)
    (read : Ruleset.ofText document = .ok rules)
    (fresh : Cache.isOutdated st.maxAge s.world.now (some time) = false)
    (memory : ∀ e, s.memory.latest = some (e, some time) → e.rules = rules)
    (succeeds : g.isOfDownload = true → ∀ f, (g.next st s).1 ≠ .error f) :
    g'.Finds old rules time ∧ s'.world = s.world ∧
      ∀ e, s'.memory.latest = some (e, some time) → e.rules = rules := by
  have dated : s.world.shelf.spot.time? = some time := by rw [file]; rfl
  cases goes with
  | looked =>
    rw [dated]
    exact ⟨.judging, rfl, memory⟩
  | stale outdated =>
    cases h with
    | judgingOld => exact ⟨.waiting, rfl, memory⟩
    | judging =>
      rw [fresh] at outdated
      cases outdated
  | @fresh locked =>
    cases locked
    · exact ⟨.asking, rfl, memory⟩
    · exact ⟨.releasing, rfl, memory⟩
  | locked =>
    cases h
    exact ⟨.looking, rfl, memory⟩
  | dated =>
    cases h
    rw [dated]
    exact ⟨.remembering, rfl, memory⟩
  | @remembered locked =>
    cases h
    refine ⟨?_, rfl, fun e latest => ?_⟩
    · cases locked
      · exact .ended rfl
      · exact .finishing rfl
    · cases latest
      rfl
  | released => exact ⟨.asking, rfl, memory⟩
  | finished =>
    cases h with
    | finishing found => exact ⟨.ended found, rfl, memory⟩
  | asked =>
    rw [dated]
    exact ⟨.recalling, rfl, memory⟩
  | recalled known =>
    cases h
    obtain ⟨_, same, latest⟩ := recall?_eq_some known
    cases same
    exact ⟨.ended (memory _ latest), rfl, memory⟩
  | unknown =>
    cases h
    exact ⟨.reading, rfl, memory⟩
  | read held =>
    cases h
    obtain ⟨content, _, document', file', decoded', read'⟩ := held
    cases file.symm.trans file'
    cases decoded.symm.trans decoded'
    cases read.symm.trans read'
    exact ⟨.remembering, rfl, memory⟩
  | idle => exact ⟨h, rfl, memory⟩
  | failed run =>
    rcases error_cases run with download | blocked | ⟨_, unheld⟩
    · exact absurd (congrArg Prod.fst run) (succeeds download _)
    · rw [file] at blocked
      cases blocked
    · exact absurd ⟨body, time, document, file, decoded, read⟩ (unheld rules)
  | _ => cases h

end Stage

/-! ## Runs with one download -/

/-- Whether nothing comes to the cache's path by this move, unless a call for rules brings it. -/
def Move.leavesCache : Move → Bool
  | .call forced => !forced
  | .go _ => true
  | .change (.serve _) | .change (.advance _) => true
  | .change _ => false

namespace Threads

/-- The call, if any, that asks the server for the rules with this move. -/
def asker? (t : Threads) : Move → Option Nat
  | .go i =>
    match t.calls[i]? with
    | some .fetching => some i
    | _ => none
  | _ => none

/-- The calls that asked for the rules in a run, as often as they did. -/
def askers (st : Store) (t : Threads) : List Move → List Nat
  | [] => []
  | m :: moves => (t.asker? m).toList ++ askers st (t.move st m) moves

/-- A call kept a document at this time. -/
def Keeps (st : Store) (t₀ : Threads) (moves : List Move) (time : Int) : Prop :=
  ∃ earlier i document rules, earlier ++ [.go i] <+: moves ∧
    (t₀.after st earlier).calls[i]? = some (.keeping document rules) ∧ (t₀.after st earlier).state.world.now = time

/-- Only calls for rules have to do with the cache, and the clock does not go back behind the start. The steps of
downloads succeed. What is kept does not become too old, and the store remembers nothing for its time at the start. -/
structure Undisturbed (st : Store) (s : State) (moves : List Move) : Prop where
  leaves : ∀ m ∈ moves, m.leavesCache = true
  clock : ∀ earlier, earlier <+: moves → s.world.now ≤ ((start s).after st earlier).state.world.now
  succeeds : ∀ earlier i g, earlier ++ [.go i] <+: moves → ((start s).after st earlier).calls[i]? = some g →
    g.isOfDownload = true → ∀ f, (g.next st ((start s).after st earlier).state).1 ≠ .error f
  inTime : ∀ earlier time, earlier <+: moves → Keeps st (start s) earlier time →
    (Duration.ofSeconds (((start s).after st earlier).state.world.now - time)).micros ≤ st.maxAge.micros
  newTime : ∀ time, Keeps st (start s) moves time → ∀ e, s.memory.latest ≠ some (e, some time)

/-- By now one call has asked for the rules, and once. What came is this text, and nothing else was asked for but what
came later. -/
structure AskedOnce (st : Store) (s : State) (moves : List Move) (t : Threads) (i : Nat) (body : Bytes)
    (document : Text) (later : List Exchange) : Prop where
  askers : askers st (start s) moves = [i]
  exchanges : t.state.world.exchanges = s.world.exchanges ++ ⟨st.source.rulesUrl, .reply 200 body⟩ :: later
  decoded : Bytes.Utf8.decode body = .ok document

/-- Nobody has fetched anything, and every call seeks rules. -/
structure Seeking (st : Store) (s : State) (moves : List Move) (t : Threads) : Prop where
  shelf : t.state.world.shelf = s.world.shelf
  memory : t.state.memory = s.memory
  unasked : askers st (start s) moves = []
  exchanges : t.state.world.exchanges = s.world.exchanges
  calls : ∀ (j : Nat) (g : Stage), t.calls[j]? = some g → g.Seeks s.world.shelf.spot.time?

/-- A call has fetched a document, and is about to verify or to keep it. All others seek rules. -/
structure Fetched (st : Store) (s : State) (moves : List Move) (t : Threads) (i : Nat) (body : Bytes)
    (document : Text) (later : List Exchange) (g : Stage) : Prop where
  shelf : t.state.world.shelf = s.world.shelf
  memory : t.state.memory = s.memory
  asked : AskedOnce st s moves t i body document later
  call : t.calls[i]? = some g
  stage : g = .verifying document ∧ st.source.verifies = true ∧ later = [] ∨
    ∃ rules, g = .keeping document rules ∧ Ruleset.ofText document = .ok rules ∧
      later.map (·.url) = st.source.hashUrls
  others : ∀ (j : Nat) (g : Stage), j ≠ i → t.calls[j]? = some g → g.Seeks s.world.shelf.spot.time?

/-- The document that a call fetched is kept, and all calls find its rules. -/
structure Kept (st : Store) (s : State) (moves : List Move) (t : Threads) (i : Nat) (body : Bytes) (document : Text)
    (later : List Exchange) (rules : Ruleset) (time : Int) : Prop where
  asked : AskedOnce st s moves t i body document later
  hashed : later.map (·.url) = st.source.hashUrls
  read : Ruleset.ofText document = .ok rules
  file : t.state.world.shelf.spot = .file body time
  keeps : Keeps st (start s) moves time
  memory : ∀ e, t.state.memory.latest = some (e, some time) → e.rules = rules
  calls : ∀ (j : Nat) (g : Stage), t.calls[j]? = some g → g.Finds s.world.shelf.spot.time? rules time

/-- Where a run that began with a stale cache may stand after some moves. -/
inductive Course (st : Store) (s : State) (moves : List Move) (t : Threads) : Prop
  | seeking (h : Seeking st s moves t)
  | fetched {i : Nat} {body : Bytes} {document : Text} {later : List Exchange} {g : Stage}
      (h : Fetched st s moves t i body document later g)
  | kept {i : Nat} {body : Bytes} {document : Text} {later : List Exchange} {rules : Ruleset} {time : Int}
      (h : Kept st s moves t i body document later rules time)

variable {s : State} {moves : List Move} {m : Move} {t t' : Threads} {i k : Nat} {g g' g₀ : Stage} {s' : State}
  {body : Bytes} {document : Text} {later : List Exchange} {rules : Ruleset} {time : Int}

theorem Keeps.mono {t₀ : Threads} {moves' : List Move} (h : Keeps st t₀ moves time) (more : moves <+: moves') :
    Keeps st t₀ moves' time := by
  obtain ⟨earlier, i, document, rules, among, kept⟩ := h
  exact ⟨earlier, i, document, rules, among.trans more, kept⟩

theorem Undisturbed.of_prefix {moves' : List Move} (h : Undisturbed st s moves') (more : moves <+: moves') :
    Undisturbed st s moves where
  leaves m hm := h.leaves m (more.subset hm)
  clock earlier among := h.clock earlier (among.trans more)
  succeeds earlier i g among := h.succeeds earlier i g (among.trans more)
  inTime earlier time among := h.inTime earlier time (among.trans more)
  newTime time keeps := h.newTime time (keeps.mono more)

theorem askers_concat (st : Store) (t : Threads) (moves : List Move) (m : Move) :
    askers st t (moves ++ [m]) = askers st t moves ++ ((t.after st moves).asker? m).toList := by
  induction moves generalizing t with
  | nil => simp only [List.nil_append, askers, after, List.foldl_nil, List.append_nil]
  | cons first moves ih => simp only [List.cons_append, askers, ih, after_cons, List.append_assoc]

theorem asker?_of_fetching (call : t.calls[i]? = some .fetching) : t.asker? (.go i) = some i := by
  simp only [asker?, call]

theorem asker?_of_other (call : t.calls[i]? = some g) (other : g ≠ .fetching) : t.asker? (.go i) = none := by
  rw [asker?, call]
  split
  · exact absurd (Option.some.inj ‹_›) other
  · rfl

/-- As long as the clock is not behind the start, a cache that was too old at the start is too old. -/
theorem outdated_of_clock {w w' : World} (stale : ¬ st.IsFresh w) (clock : w.now ≤ w'.now) :
    Cache.isOutdated st.maxAge w'.now w.shelf.spot.time? = true := by
  have first := (st.isOutdated_iff w).mpr stale
  cases modified : w.shelf.spot.time? with
  | none => rfl
  | some t =>
    rw [modified] at first
    simp only [Cache.isOutdated, decide_eq_true_eq] at first ⊢
    simp only [Duration.ofSeconds] at first ⊢
    omega

/-! ## One move -/

/-- A move without a request leaves it at what was asked for. -/
theorem AskedOnce.next (h : AskedOnce st s moves t i body document later) (reached : (start s).after st moves = t)
    (none : t.asker? m = none) (same : t'.state.world.exchanges = t.state.world.exchanges) :
    AskedOnce st s (moves ++ [m]) t' i body document later where
  askers := by rw [askers_concat, reached, none, h.askers]; rfl
  exchanges := same.trans h.exchanges
  decoded := h.decoded

/-- A move that asks for nothing and keeps nothing, and by which a call at most begins, leaves the run where it is. -/
theorem Course.of_quiet (h : Course st s moves t) (reached : (start s).after st moves = t) (none : t.asker? m = none)
    (shelf : t'.state.world.shelf = t.state.world.shelf) (memory : t'.state.memory = t.state.memory)
    (exchanges : t'.state.world.exchanges = t.state.world.exchanges)
    (stays : ∀ (j : Nat) (g : Stage), t.calls[j]? = some g → t'.calls[j]? = some g)
    (calls : ∀ (j : Nat) (g : Stage), t'.calls[j]? = some g → t.calls[j]? = some g ∨ g = .looking false) :
    Course st s (moves ++ [m]) t' := by
  cases h with
  | seeking h =>
    refine .seeking ⟨shelf.trans h.shelf, memory.trans h.memory, ?_, exchanges.trans h.exchanges, fun j g call => ?_⟩
    · rw [askers_concat, reached, none, h.unasked]; rfl
    · rcases calls j g call with old | rfl
      · exact h.calls j g old
      · exact .looking
  | fetched h =>
    refine .fetched ⟨shelf.trans h.shelf, memory.trans h.memory, h.asked.next reached none exchanges,
      stays _ _ h.call, h.stage, fun j g other call => ?_⟩
    rcases calls j g call with old | rfl
    · exact h.others j g other old
    · exact .looking
  | kept h =>
    refine .kept ⟨h.asked.next reached none exchanges, h.hashed, h.read, shelf ▸ h.file,
      h.keeps.mono (List.prefix_append _ _), memory ▸ h.memory, fun j g call => ?_⟩
    rcases calls j g call with old | rfl
    · exact h.calls j g old
    · exact .looking

section Step

variable (reached : (start s).after st moves = t) (undisturbed : Undisturbed st s (moves ++ [.go i]))
  (call : t.calls[i]? = some g) (goes : g.Goes st t.state g' s')

include reached undisturbed call

theorem Undisturbed.next_ok (download : g.isOfDownload = true) (f : Fault) : (g.next st t.state).1 ≠ .error f := by
  have := undisturbed.succeeds moves i g List.prefix_rfl
  rw [reached] at this
  exact this call download f

include goes

theorem Seeking.go (h : Seeking st s moves t) (stat : s.world.shelf.spot ≠ .blocked)
    (stale : ¬ st.IsFresh s.world) : Course st s (moves ++ [.go i]) ⟨s', t.calls.set i g'⟩ := by
  have clock := undisturbed.clock moves (List.prefix_append _ _)
  rw [reached] at clock
  rcases (h.calls i g call).goes goes (by rw [h.shelf]) (by rwa [h.shelf]) (outdated_of_clock stale clock)
    (undisturbed.next_ok reached call) with ⟨other, seeks, rfl⟩ | ⟨rfl, document, w, fetch, rfl, stage⟩
  · refine .seeking ⟨h.shelf, h.memory, ?_, h.exchanges, fun j g₁ call₁ => ?_⟩
    · rw [askers_concat, reached, asker?_of_other call other, h.unasked]; rfl
    · rcases stepped_cases call₁ with ⟨_, rfl⟩ | ⟨_, old⟩
      · exact seeks
      · exact h.calls j g₁ old
  · obtain ⟨body, decoded, exchanged⟩ := Download.fetch_ok fetch
    have asked := Act.asked_fetch st.source.rulesUrl t.state.world
    have after : (Download.fetch st.source.rulesUrl t.state.world).2 = w := congrArg Prod.snd fetch
    rw [after] at asked
    have call' : (t.calls.set i g')[i]? = some g' := List.getElem?_set_self (List.getElem?_eq_some_iff.mp call).1
    have once : AskedOnce st s (moves ++ [.go i]) ⟨{ t.state with world := w }, t.calls.set i g'⟩ i body document
        [] := by
      refine ⟨?_, exchanged.trans (by rw [h.exchanges]), decoded⟩
      rw [askers_concat, reached, asker?_of_fetching call, h.unasked]; rfl
    refine .fetched ⟨asked.shelf.trans h.shelf, h.memory, once, call', ?_, fun j g₁ other call₁ => ?_⟩
    · refine stage.imp (fun ⟨verifies, at_⟩ => ⟨at_, verifies, rfl⟩) fun ⟨verifies, rules, read, at_⟩ => ?_
      exact ⟨rules, at_, read, by simp [Source.hashUrls, verifies]⟩
    · rcases stepped_cases call₁ with ⟨rfl, _⟩ | ⟨_, old⟩
      · exact absurd rfl other
      · exact h.calls j g₁ old

theorem Kept.go (h : Kept st s moves t k body document later rules time) :
    Course st s (moves ++ [.go i]) ⟨s', t.calls.set i g'⟩ := by
  have within : moves <+: moves ++ [.go i] := List.prefix_append _ _
  have fresh : Cache.isOutdated st.maxAge t.state.world.now (some time) = false := by
    have := undisturbed.inTime moves time within h.keeps
    rw [reached] at this
    exact decide_eq_false (Int.not_lt.mpr this)
  have finds := h.calls i g call
  obtain ⟨finds', world, memory⟩ := finds.goes goes h.file h.asked.decoded h.read fresh h.memory
    (undisturbed.next_ok reached call)
  refine .kept ⟨h.asked.next reached (asker?_of_other call finds.ne_fetching) (congrArg _ world), h.hashed, h.read,
    world ▸ h.file, h.keeps.mono within, memory, fun j g₁ call₁ => ?_⟩
  rcases stepped_cases call₁ with ⟨_, rfl⟩ | ⟨_, old⟩
  · exact finds'
  · exact h.calls j g₁ old

/-- The call that has fetched the rules holds the lock, so that all others go on seeking. -/
theorem Fetched.go_other (h : Fetched st s moves t k body document later g₀) (other : i ≠ k)
    (stat : s.world.shelf.spot ≠ .blocked) (stale : ¬ st.IsFresh s.world) (exclusive : t.Exclusive) :
    Course st s (moves ++ [.go i]) ⟨s', t.calls.set i g'⟩ := by
  have clock := undisturbed.clock moves (List.prefix_append _ _)
  rw [reached] at clock
  rcases (h.others i g other call).goes goes (by rw [h.shelf]) (by rwa [h.shelf]) (outdated_of_clock stale clock)
    (undisturbed.next_ok reached call) with ⟨still, seeks, rfl⟩ | ⟨rfl, _⟩
  · refine .fetched ⟨h.shelf, h.memory, h.asked.next reached (asker?_of_other call still) rfl, ?_, h.stage,
      fun j g₁ besides call₁ => ?_⟩
    · rw [List.getElem?_set_ne other, h.call]
    · rcases stepped_cases call₁ with ⟨_, rfl⟩ | ⟨_, old⟩
      · exact seeks
      · exact h.others j g₁ besides old
  · have held : g₀.holdsLock = true := by
      rcases h.stage with ⟨rfl, _⟩ | ⟨_, rfl, _⟩ <;> rfl
    have free := exclusive k g₀ h.call held i .fetching other call
    cases free

/-- The call that has fetched the rules has them verified, or keeps them. -/
theorem Fetched.go_own (h : Fetched st s moves t i body document later g) (exclusive : t.Exclusive) :
    Course st s (moves ++ [.go i]) ⟨s', t.calls.set i g'⟩ := by
  have ok := undisturbed.next_ok reached call
  have call' : (t.calls.set i g')[i]? = some g' := List.getElem?_set_self (List.getElem?_eq_some_iff.mp call).1
  rcases h.stage with ⟨rfl, verifies, rfl⟩ | ⟨rules, rfl, read, hashed⟩
  · have unasked := asker?_of_other call nofun
    cases goes with
    | @verified _ _ rules w fetch _ read =>
      obtain ⟨answer, _, _, _, exchanged⟩ := Download.hash_ok fetch
      have asked : t.state.world.Asked (Download.hash st.source t.state.world).2 :=
        within_bind (Act.asked_fetch _) (fun _ => within_pure _) t.state.world
      rw [fetch] at asked
      have once : AskedOnce st s (moves ++ [.go i])
          ⟨{ t.state with world := w }, t.calls.set i (.keeping document rules)⟩ i body document
          [⟨st.source.hashUrl, .reply 200 answer⟩] := by
        refine ⟨?_, exchanged.trans (by rw [h.asked.exchanges, List.append_assoc]; rfl), h.asked.decoded⟩
        rw [askers_concat, reached, unasked, h.asked.askers]; rfl
      refine .fetched ⟨asked.shelf.trans h.shelf, h.memory, once, call', .inr ⟨rules, rfl, read, ?_⟩,
        fun j g₁ other call₁ => ?_⟩
      · simp [Source.hashUrls, verifies]
      · rcases stepped_cases call₁ with ⟨rfl, _⟩ | ⟨_, old⟩
        · exact absurd rfl other
        · exact h.others j g₁ other old
    | failed run => exact absurd (congrArg Prod.fst run) (ok rfl _)
  · have unasked := asker?_of_other call nofun
    cases goes with
    | kept =>
      have keeps : Keeps st (start s) (moves ++ [.go i]) t.state.world.now :=
        ⟨moves, i, document, rules, List.prefix_rfl, by rw [reached, call], by rw [reached]⟩
      refine .kept ⟨h.asked.next reached unasked rfl, hashed, read, ?_, keeps, fun e latest => ?_, fun j g₁ call₁ => ?_⟩
      · rw [← Bytes.Utf8.encode_of_decode h.asked.decoded]; rfl
      · have latest : t.state.memory.latest = some (e, some t.state.world.now) := latest
        rw [h.memory] at latest
        exact absurd latest (undisturbed.newTime _ keeps e)
      · rcases stepped_cases call₁ with ⟨_, rfl⟩ | ⟨other, old⟩
        · exact .dating
        · exact (h.others j g₁ other old).finds (exclusive i _ call rfl j g₁ other old)
    | failed run => exact absurd (congrArg Prod.fst run) (ok rfl _)

end Step

theorem Course.next (h : Course st s moves t) (reached : (start s).after st moves = t)
    (stat : s.world.shelf.spot ≠ .blocked) (stale : ¬ st.IsFresh s.world)
    (undisturbed : Undisturbed st s (moves ++ [m])) (exclusive : t.Exclusive) :
    Course st s (moves ++ [m]) (t.move st m) := by
  have leaves := undisturbed.leaves m (by simp)
  cases m with
  | call forced =>
    obtain rfl : forced = false := by simpa [Move.leavesCache] using leaves
    refine h.of_quiet reached rfl rfl rfl rfl (fun j g call => ?_) fun j g call => ?_
    · exact (List.getElem?_append_left (List.getElem?_eq_some_iff.mp call).1).trans call
    · exact (begun_cases call).imp_right fun ⟨_, first⟩ => first
  | change c =>
    cases c with
    | serve server => exact h.of_quiet reached rfl rfl rfl rfl (fun _ _ => id) fun _ _ => .inl
    | advance seconds => exact h.of_quiet reached rfl rfl rfl rfl (fun _ _ => id) fun _ _ => .inl
    | _ => cases leaves
  | go i =>
    cases call : t.calls[i]? with
    | none =>
      have stands : t.move st (.go i) = t := by simp only [move, call]
      rw [stands]
      exact h.of_quiet reached (by simp only [asker?, call]) rfl rfl rfl (fun _ _ => id) fun _ _ => .inl
    | some g =>
      by_cases free : t.canGo g = true
      · have goes := Stage.step_goes st g t.state
        rw [move_go st call free]
        cases h with
        | seeking h => exact h.go reached undisturbed call goes stat stale
        | @fetched k _ _ _ _ h =>
          by_cases own : i = k
          · subst own
            obtain rfl := Option.some.inj (h.call.symm.trans call)
            exact h.go_own reached undisturbed call goes exclusive
          · exact h.go_other reached undisturbed call goes own stat stale exclusive
        | kept h => exact h.go reached undisturbed call goes
      · have stands : t.move st (.go i) = t := by simp [move, call, free]
        have other : g ≠ .fetching := by
          rintro rfl
          exact free rfl
        rw [stands]
        exact h.of_quiet reached (asker?_of_other call other) rfl rfl rfl (fun _ _ => id) fun _ _ => .inl

/-! ## Runs -/

/-- By induction from the end of a run, as what is known of a run is said of all its moves so far. -/
theorem course_after (stat : s.world.shelf.spot ≠ .blocked) (stale : ¬ st.IsFresh s.world)
    (undisturbed : Undisturbed st s moves) : Course st s moves ((start s).after st moves) := by
  induction moves using List.reverseRecOn with
  | nil => exact .seeking ⟨rfl, rfl, rfl, rfl, fun j g call => nomatch call⟩
  | append_singleton moves m ih =>
    rw [after_concat]
    exact (ih (undisturbed.of_prefix (List.prefix_append _ _))).next rfl stat stale undisturbed
      (exclusive_after st s moves)

/-- However many calls ask a store for rules and in whatever order they take their steps, if the cache is missing or
too old when the first begins and nothing but these calls has to do with it: as long as downloads succeed and what they
bring is not too old, and the store does not take it for something it remembers, at most one call asks for the rules,
and no more is asked for than by one download. Once a call has ended, one has asked, and every call that has ended has
handed out the rules that came. -/
theorem download_shared (stat : s.world.shelf.spot ≠ .blocked) (stale : ¬ st.IsFresh s.world)
    (undisturbed : Undisturbed st s moves) :
    ((askers st (start s) moves).length ≤ 1 ∧ ∃ asked, asked <+: st.source.rulesUrl :: st.source.hashUrls ∧
      ((start s).after st moves).state.world.requests = s.world.requests ++ asked) ∧
    ((∃ outcome, .ended outcome ∈ ((start s).after st moves).calls) →
      ∃ i body document later rules, AskedOnce st s moves ((start s).after st moves) i body document later ∧
        later.map (·.url) = st.source.hashUrls ∧ Ruleset.ofText document = .ok rules ∧
        ∀ outcome, .ended outcome ∈ ((start s).after st moves).calls → ∃ e, outcome = .ok e ∧ e.rules = rules) := by
  have requests : ∀ w : World, w.requests = w.exchanges.map (·.url) := fun _ => rfl
  rcases course_after stat stale undisturbed with h | h | h
  · refine ⟨⟨by rw [h.unasked]; exact Nat.zero_le 1, [], List.nil_prefix, ?_⟩, ?_⟩
    · rw [requests, h.exchanges, List.append_nil, requests]
    · rintro ⟨outcome, ended⟩
      obtain ⟨j, call⟩ := List.mem_iff_getElem?.mp ended
      cases h.calls j _ call
  · rename_i i body document later g
    refine ⟨⟨by rw [h.asked.askers]; exact Nat.le_refl 1, st.source.rulesUrl :: later.map (·.url), ?_, ?_⟩, ?_⟩
    · rcases h.stage with ⟨_, _, rfl⟩ | ⟨_, _, _, hashed⟩
      · exact List.cons_prefix_cons.mpr ⟨rfl, List.nil_prefix⟩
      · rw [hashed]
    · rw [requests, h.asked.exchanges, List.map_append, requests]; rfl
    · rintro ⟨outcome, ended⟩
      obtain ⟨j, call⟩ := List.mem_iff_getElem?.mp ended
      by_cases own : j = i
      · rw [own, h.call] at call
        rcases h.stage with ⟨rfl, _⟩ | ⟨_, rfl, _⟩ <;> cases call
      · cases h.others j _ own call
  · refine ⟨⟨by rw [h.asked.askers]; exact Nat.le_refl 1, _, List.prefix_rfl, ?_⟩, fun _ =>
      ⟨_, _, _, _, _, h.asked, h.hashed, h.read, fun outcome ended => ?_⟩⟩
    · rw [requests, h.asked.exchanges, List.map_append, requests, List.map_cons, h.hashed]
    · obtain ⟨j, call⟩ := List.mem_iff_getElem?.mp ended
      cases h.calls j _ call with
      | ended found => exact ⟨_, rfl, found⟩

/-- Two calls find the cache stale, and while the first downloads the second waits. Five seconds later a third finds
what the first has kept and does not remember yet. -/
def crowd : List Move :=
  let go (i steps : Nat) : List Move := List.replicate steps (.go i)
  List.flatten [[.call false, .call false], go 0 2, go 1 2, go 0 4, go 1 1, go 0 1, [.change (.advance 5)], go 0 1,
    [.call false], go 2 6, go 0 3, go 1 6]

theorem crowd_undisturbed : Undisturbed dated (remembered 101) crowd := by
  -- the clock and the downloads at each moment
  have all : ∀ earlier ∈ crowd.inits,
      101 ≤ ((start (remembered 101)).after dated earlier).state.world.now ∧
        ((start (remembered 101)).after dated earlier).state.world.now ≤ 106 ∧
        ∀ g ∈ ((start (remembered 101)).after dated earlier).calls, g.isOfDownload = true →
          (g.next dated ((start (remembered 101)).after dated earlier).state).1.isOk = true := by decide +kernel
  have moments := fun earlier among => all earlier ((List.mem_inits earlier crowd).mpr among)
  have kept : ∀ time, Keeps dated (start (remembered 101)) crowd time → 101 ≤ time := by
    rintro time ⟨earlier, i, document, rules, among, _, rfl⟩
    exact (moments earlier ((List.prefix_append _ _).trans among)).1
  refine ⟨by decide, fun earlier among => (moments earlier among).1, fun earlier i g among call download f failed => ?_,
    fun earlier time among keeps => ?_, fun time keeps e latest => ?_⟩
  · have ok := (moments earlier ((List.prefix_append _ _).trans among)).2.2 g (List.mem_of_getElem? call) download
    rw [failed] at ok
    cases ok
  · have now := (moments earlier among).2.1
    have since := kept time (keeps.mono among)
    show (_ - time) * 1000000 ≤ 60 * 1000000
    omega
  · have since := kept time keeps
    obtain rfl : (40 : Int) = time := Option.some.inj (congrArg Prod.snd (Option.some.inj latest))
    omega

/-- All three have the rules of the one download. -/
theorem crowd_shares_download :
    (remembered 101).world.shelf.spot ≠ .blocked ∧ ¬ dated.IsFresh (remembered 101).world ∧
      Undisturbed dated (remembered 101) crowd ∧
      ∃ t, (start (remembered 101)).after dated crowd = t ∧ t.calls.length = 3 ∧
        ∃ i body document later rules, AskedOnce dated (remembered 101) crowd t i body document later ∧
          later.map (·.url) = [dated.source.hashUrl] ∧ Ruleset.ofText document = .ok rules ∧
          ∀ g ∈ t.calls, ∃ e, g = .ended (.ok e) ∧ e.rules = rules := by
  have stat : (remembered 101).world.shelf.spot ≠ .blocked := nofun
  have stale : ¬ dated.IsFresh (remembered 101).world := by
    rintro ⟨_, ⟨⟩, h⟩
    exact absurd h (by decide)
  have settled : ((start (remembered 101)).after dated crowd).calls.all (·.toGo == 0) = true := by decide +kernel
  have three : ((start (remembered 101)).after dated crowd).calls.length = 3 := by decide +kernel
  have shared := (download_shared stat stale crowd_undisturbed).2
  refine ⟨stat, stale, crowd_undisturbed, _, rfl, three, ?_⟩
  have ended : ∀ g ∈ ((start (remembered 101)).after dated crowd).calls, ∃ outcome, g = .ended outcome := fun g hg =>
    Stage.eq_ended (eq_of_beq (List.all_eq_true.mp settled g hg))
  obtain ⟨g, hg⟩ := List.exists_mem_of_length_pos (by rw [three]; exact Nat.zero_lt_succ 2)
  obtain ⟨outcome, rfl⟩ := ended g hg
  obtain ⟨i, body, document, later, rules, once, hashed, read, all⟩ := shared ⟨outcome, hg⟩
  refine ⟨i, body, document, later, rules, once, hashed, read, fun g hg => ?_⟩
  obtain ⟨outcome, rfl⟩ := ended g hg
  obtain ⟨e, rfl, same⟩ := all outcome hg
  exact ⟨e, rfl, same⟩

end Threads
end Store
end Untrack
