/-
  Untrack.Proofs.Store.Serving — the rules that a store hands out are those of the document in the cache, although
  it may hand them out from memory (`served_is_held`). That takes a cache to which nothing comes with the time of an
  earlier file (`Shelf.Renewed`).

  The invariant is `State.Faithful`: the time remembered was a file's, and if it is the cache's now the cache has the
  rules remembered. A job that asks for the time and then waits while another completes a download leaves
  the new rules in memory under the old time; no file bears it again, so they are not handed out.
-/

import Untrack.Proofs.Bytes.Utf8
import Untrack.Proofs.Store.Steps
import Untrack.Proofs.World.History

namespace Untrack

/-! ## The invariant -/

namespace State

/-- The time remembered was that of a file at the cache's path; if it is the cache's time now, the cache has the
rules remembered. -/
def Faithful (s : State) : Prop :=
  ∀ e t, s.memory.latest = some (e, some t) →
    (∃ old ∈ s.world.shelf.history, old.fileTime? = some t) ∧
      (s.world.shelf.spot.time? = some t → s.world.shelf.Holds e.rules)

theorem faithful_of_none {s : State} (h : s.memory.latest = none) : s.Faithful := fun e t he => by
  rw [h] at he
  cases he

/-- What happens between two states adds to the history and keeps memory faithful. -/
structure Leads (s s' : State) : Prop where
  history : s.world.shelf.history <:+ s'.world.shelf.history
  faithful : s'.world.shelf.Renewed → s.Faithful → s'.Faithful

theorem Leads.refl (s : State) : s.Leads s := ⟨List.suffix_rfl, fun _ h => h⟩

theorem Leads.trans {a b c : State} (h : a.Leads b) (k : b.Leads c) : a.Leads c :=
  ⟨h.history.trans k.history, fun hc ha => k.faithful hc (h.faithful (hc.of_suffix k.history) ha)⟩

instance isPreorder_leads : IsPreorder State State.Leads where
  refl := .refl
  trans _ _ _ := .trans

/-- Memory stays faithful whatever comes to the cache's path. -/
theorem Leads.of_history {s s' : State} (hm : s'.memory = s.memory)
    (hs : s.world.shelf.history <:+ s'.world.shelf.history) : s.Leads s' := by
  refine ⟨hs, fun hr hf e t he => ?_⟩
  obtain ⟨⟨old, hold, ht⟩, held⟩ := hf e t (by rw [← hm, he])
  refine ⟨⟨old, hs.subset hold, ht⟩, fun hnow => ?_⟩
  have same := hr.current hs hold ht hnow
  obtain ⟨content, modified, document, hspot, hd⟩ := held (same ▸ hnow)
  exact ⟨content, modified, document, same.trans hspot, hd⟩

/-- The cache's rules may be remembered for the time of any file that was at its path. -/
theorem Leads.remembering {s : State} {rules : Ruleset} {modified : Option Int}
    (seen : ∀ t, modified = some t → ∃ old ∈ s.world.shelf.history, old.fileTime? = some t)
    (held : s.world.shelf.Holds rules) : s.Leads (s.remembering rules modified) := by
  refine ⟨List.suffix_rfl, fun _ _ e t he => ?_⟩
  cases he
  exact ⟨seen t rfl, fun _ => held⟩

/-- A job hands out, if any, rules of the document in the cache. -/
structure Serves (s : State) (r : Except Fault Edition × State) : Prop where
  leads : s.Leads r.2
  holds : ∀ e, r.1 = .ok e → s.Faithful → r.2.world.shelf.Renewed → r.2.world.shelf.Holds e.rules

theorem Leads.serves {s m : State} {r : Except Fault Edition × State} (h : s.Leads m) (k : m.Serves r) : s.Serves r :=
  ⟨h.trans k.leads, fun e he hf hr => k.holds e he (h.faithful (hr.of_suffix k.leads.history) hf) hr⟩

theorem Leads.serves_error {s m : State} (h : s.Leads m) (f : Fault) : s.Serves (.error f, m) :=
  ⟨h, fun _ he => nomatch he⟩

end State

/-! ## Jobs -/

/-- Whatever the state, the job keeps memory faithful. -/
def Job.Keeps (t : Job α) : Prop := ∀ s : State, s.Leads (t s).2

namespace Store

/-- A document just kept is what the cache holds. -/
theorem holds_keeping {document : Text} {rules : Ruleset} (h : Ruleset.ofText document = .ok rules) (w : World) :
    (w.keeping document).shelf.Holds rules :=
  ⟨_, _, document, rfl, Bytes.Utf8.decode_encode document, h⟩

theorem download_serves (st : Store) {m : Meanwhile} (hm : m.writtenAfterWriting = none) (s : State) :
    s.Serves (st.download m s) := by
  obtain ⟨w, hw, ⟨f, h⟩ | ⟨document, rules, hp, _, h⟩⟩ := st.download_cases hm s <;> rw [h]
  · have looked : s.Leads { s with world := w } := .of_history rfl (hw ▸ List.suffix_rfl)
    exact looked.serves_error f
  have held := holds_keeping hp w
  have kept : s.Leads { s with world := w.keeping document } :=
    .of_history rfl (hw ▸ Cache.Shelf.history_put _ _)
  refine ⟨kept.trans (.remembering ?_ held), ?_⟩
  · intro t ht
    cases ht
    exact ⟨_, List.mem_cons_self, rfl⟩
  · intro e he _ _
    cases he
    exact held

theorem refresh_serves (st : Store) (s : State) : s.Serves (st.refresh s) :=
  st.download_serves (m := .nothing) rfl s

theorem recall?_eq_some {m : Memory} {modified : Option Int} {e : Edition} (h : m.recall? modified = some e) :
    ∃ t, modified = some t ∧ m.latest = some (e, some t) := by
  unfold Memory.recall? at h
  split at h
  · rename_i e' t' hm
    split at h
    · rename_i ht
      cases h
      obtain ⟨some, same⟩ := Bool.and_eq_true_iff.mp ht
      obtain ⟨t, rfl⟩ := Option.isSome_iff_exists.mp some
      exact ⟨t, rfl, by rw [hm, beq_iff_eq.mp same]⟩
    · cases h
  · cases h

/-- Rules are handed out from memory only if they are the cache's, and read from it otherwise. The cache may have
changed since it was asked for its time. -/
theorem recallOr_serves (st : Store) {modified : Option Int} {s : State}
    (current : ∀ e, s.memory.recall? modified = some e → s.world.shelf.spot.time? = modified)
    (seen : ∀ t, modified = some t → s.world.shelf.spot.time? = some t ∨
      ∃ old ∈ s.world.shelf.history, old.fileTime? = some t) :
    s.Serves (st.recallOr modified s) := by
  rcases st.recallOr_cases modified s with ⟨e, hr, h⟩ | ⟨f, h⟩ | ⟨rules, held, h⟩ <;> rw [h]
  · refine ⟨.refl s, ?_⟩
    intro e' he hf _
    cases he
    obtain ⟨t, rfl, hm⟩ := recall?_eq_some hr
    exact (hf e t hm).2 (current e hr)
  · exact (State.Leads.refl s).serves_error f
  · refine ⟨.remembering ?_ held, ?_⟩
    · intro t ht
      rcases seen t ht with hnow | hold
      · obtain ⟨content, modified', document, hs, _⟩ := held
        refine ⟨_, List.mem_cons_self, ?_⟩
        rw [hs] at hnow ⊢
        exact hnow
      · exact hold
    · intro e he _ _
      cases he
      exact held

/-- After the cache was asked for its time another may complete a download. The time asked for is then that of the
file before, and what memory holds bears the new one. -/
theorem load_serves (st : Store) (m : Meanwhile) (s : State) : s.Serves (st.load m s) := by
  rw [load_run]
  rcases h : s.world.shelf.modified? st.location with f | modified
  · exact (State.Leads.refl s).serves_error _
  have asked := Cache.Shelf.modified?_ok h
  cases m.downloadedAfterAsking with
  | false => exact recallOr_serves st (fun _ _ => asked.symm) fun t ht => Or.inl (asked.symm.trans ht)
  | true =>
    have leads := (st.refresh_serves s).leads
    obtain ⟨w, hw, ⟨f, hd⟩ | ⟨document, rules, _, free, hd⟩⟩ := st.refresh_cases s
    · rw [hd] at leads ⊢
      exact leads.serves_error f
    rw [hd] at leads ⊢
    refine leads.serves (recallOr_serves st ?_ ?_)
    · intro e he
      obtain ⟨t, rfl, hm⟩ := recall?_eq_some he
      cases hm
      rfl
    · intro t ht
      refine Or.inr ⟨w.shelf.spot, List.mem_cons_of_mem _ List.mem_cons_self, ?_⟩
      rw [Cache.Spot.fileTime?_eq free, hw, ← asked, ht]

theorem getAmid_serves (st : Store) {m : Meanwhile} (hm : m.writtenAfterWriting = none) (s : State) :
    s.Serves (st.getAmid m s) := by
  have lock : s.Leads (s.atLock m) := .of_history rfl (history_othersWrite m.writtenAtLock s.world)
  rw [getAmid_run]
  rcases (st.isStale s.world).1 with f | _ | _
  · exact (State.Leads.refl s).serves_error f
  · exact st.load_serves m s
  rcases (st.isStale (s.atLock m).world).1 with f | _ | _
  · exact lock.serves_error f
  · exact lock.serves (st.load_serves m _)
  · exact lock.serves (st.download_serves hm _)

theorem get_serves (st : Store) (s : State) : s.Serves (st.get s) := st.getAmid_serves (m := .nothing) rfl s

/-! ## Runs -/

/-- Each step keeps memory faithful, if nobody writes the cache between its writing and its asking for the time. -/
theorem take_keeps (st : Store) {step : Step} (alone : ∀ m, step = .get m → m.writtenAfterWriting = none) :
    (st.take step).Keeps := by
  have adds : ∀ {w w' : World}, w.shelf.history <:+ w'.shelf.history → w.Carries State.Leads w' := fun h _ =>
    .of_history rfl h
  refine take_within st (fun w w' h => adds (h.shelf ▸ List.suffix_rfl)) ?_ (fun s => (st.refresh_serves s).leads)
    (fun w => adds (Act.adds_runOnce _ w)) (fun _ _ w => adds (Act.adds_writeText _ _ w))
    fun c _ w => adds (c.history_apply w)
  rintro m (hm | rfl) s
  · exact (st.getAmid_serves (alone m hm) s).leads
  · exact (st.get_serves s).leads

/-- Only steps that ask the store for rules or have it download them hand out an edition. -/
theorem take_edition {st : Store} {step : Step} {s s' : State} {e : Edition}
    (h : st.take step s = (.ok (.edition e), s')) :
    (∃ m, step = .get m ∧ st.getAmid m s = (.ok e, s')) ∨ (step = .refresh ∧ st.refresh s = (.ok e, s')) := by
  cases step with
  | get m =>
    obtain ⟨_, _, hg, h⟩ := bind_ok h
    cases h
    exact Or.inl ⟨m, rfl, hg⟩
  | refresh =>
    obtain ⟨_, _, hr, h⟩ := bind_ok h
    cases h
    exact Or.inr ⟨rfl, hr⟩
  | change c => cases h
  | _ =>
    obtain ⟨_, _, _, h⟩ := bind_ok h
    cases h

theorem run_leads (st : Store) {steps : List Step} (alone : ∀ m, .get m ∈ steps → m.writtenAfterWriting = none)
    (s : State) : s.Leads (st.run steps s).2 :=
  st.run_within (fun _ hs => st.take_keeps fun m hm => alone m (hm ▸ hs)) s

theorem run_holds (st : Store) {steps : List Step} (alone : ∀ m, .get m ∈ steps → m.writtenAfterWriting = none)
    {s : State} (hf : s.Faithful) (renewed : (st.run steps s).2.world.shelf.Renewed) :
    ∀ report ∈ (st.run steps s).1, ∀ e, report.outcome = .ok (.edition e) → report.shelf.Holds e.rules := by
  induction steps generalizing s with
  | nil => exact fun _ h => nomatch h
  | cons step steps ih =>
    have first : s.Leads (st.take step s).2 := st.take_keeps (fun m hm => alone m (hm ▸ List.mem_cons_self)) s
    have alone' : ∀ m, .get m ∈ steps → m.writtenAfterWriting = none := fun m hm => alone m (List.mem_cons_of_mem _ hm)
    have rest := st.run_leads alone' (st.take step s).2
    have renewed' : (st.take step s).2.world.shelf.Renewed := renewed.of_suffix rest.history
    intro report hr e he
    rcases List.mem_cons.mp hr with rfl | hr
    · rcases take_edition (Prod.ext he rfl : st.take step s = (.ok (.edition e), (st.take step s).2)) with
        ⟨m, rfl, h⟩ | ⟨rfl, h⟩
      · have serves := st.getAmid_serves (alone m List.mem_cons_self) s
        rw [h] at serves
        exact serves.holds e rfl hf renewed'
      · have serves := st.refresh_serves s
        rw [h] at serves
        exact serves.holds e rfl hf renewed'
    · exact ih alone' (first.faithful renewed' hf) renewed report hr e he

/-- Whatever happens to a store and to the cache, as long as nothing comes to the cache's path with a time that a file
there had before: the rules that the store hands out, asked for them or told to download them, are those of the
document that the cache has when it does. So are those it takes for itself in between, to clean by. Others may write
as the lock is taken and download after the cache was asked for its time, but not write between a download's own
writing and its asking for the time: then the store remembers rules that the cache does not have. -/
theorem served_is_held (st : Store) {s : State} (unasked : s.memory.latest = none) (steps : List Step)
    (alone : ∀ m, .get m ∈ steps → m.writtenAfterWriting = none)
    (renewed : (st.run steps s).2.world.shelf.Renewed) :
    (∀ report ∈ (st.run steps s).1, ∀ e, report.outcome = .ok (.edition e) → report.shelf.Holds e.rules) ∧
      ∀ earlier, earlier <+: steps → ∀ e s', st.get (st.run earlier s).2 = (.ok e, s') →
        s'.world.shelf.Renewed → s'.world.shelf.Holds e.rules := by
  have faithful := State.faithful_of_none unasked
  refine ⟨run_holds st alone faithful renewed, fun earlier he e s' hg hr => ?_⟩
  have leads := st.run_leads (fun m hm => alone m (he.subset hm)) s
  have serves := st.get_serves (st.run earlier s).2
  rw [hg] at serves
  exact serves.holds e rfl (leads.faithful (hr.of_suffix serves.leads.history) faithful) hr

/-- The edition that a step handed out. -/
def Report.edition? (r : Report) : Option Edition :=
  match r.outcome with
  | .ok (.edition e) => some e
  | _ => none

theorem Report.edition?_eq_some {r : Report} {e : Edition} (h : r.edition? = some e) :
    r.outcome = .ok (.edition e) := by
  unfold edition? at h
  split at h <;> cases h
  assumption

/-- A store that keeps its cache for a minute. -/
def patient : Store := ⟨⟨"http://host/rules".toList, "http://host/hash".toList, false⟩,
  ⟨"cache/rules".toList, "cache".toList⟩, .ofSeconds 60⟩

def noProviders : Bytes := Bytes.Utf8.encode "\x7b\"providers\":\x7b\x7d\x7d".toList

def oneProvider : Bytes :=
  Bytes.Utf8.encode "\x7b\"providers\":\x7b\"shop\":\x7b\"urlPattern\":\"shop\"\x7d\x7d\x7d".toList

/-- Another completes a download just after the cache was asked for its time, and one writes the cache when it has
become stale. -/
def overtaken : List Step :=
  [.get .nothing, .change (.advance 5), .get ⟨none, none, true⟩, .get .nothing, .change (.advance 100),
    .get ⟨some ⟨noProviders, 50⟩, none, false⟩]

/-- The new rules, left in memory under the old time, are read again when the store is asked next. -/
theorem overtaken_served :
    let s := State.start 10 ⟨[.reply 200 noProviders, .reply 200 oneProvider], []⟩
    s.memory.latest = none ∧ (∀ m, .get m ∈ overtaken → m.writtenAfterWriting = none) ∧
      (patient.run overtaken s).2.world.shelf.Renewed ∧
      ∃ report ∈ (patient.run overtaken s).1, ∃ e, report.outcome = .ok (.edition e) ∧ e.serial = 3 ∧
        e.rules.names = ["shop".toList] ∧ report.shelf.Holds e.rules := by
  intro s
  have alone : ∀ m, .get m ∈ overtaken → m.writtenAfterWriting = none := by
    intro m hm
    simp only [overtaken, List.mem_cons, List.not_mem_nil, or_false] at hm
    rcases hm with h | h | h | h | h | h <;> cases h <;> rfl
  have renewed : (patient.run overtaken s).2.world.shelf.Renewed := by decide +kernel
  have served : ((patient.run overtaken s).1.any fun report =>
      report.edition?.any fun e => e.serial == 3 && e.rules.names == ["shop".toList]) = true := by decide +kernel
  obtain ⟨report, hr, h⟩ := List.any_eq_true.mp served
  obtain ⟨e, he, h⟩ := (Option.any_eq_true _ _).mp h
  rw [Bool.and_eq_true, beq_iff_eq, beq_iff_eq] at h
  have handed := Report.edition?_eq_some he
  exact ⟨rfl, alone, renewed, report, hr, e, handed, h.1, h.2,
    (served_is_held patient rfl overtaken alone renewed).1 report hr e handed⟩

end Store
end Untrack
