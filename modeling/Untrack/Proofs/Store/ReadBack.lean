/-
  Untrack.Proofs.Store.ReadBack — what is read back is what was downloaded (`download_is_read_back`). A download that
  succeeds, by the store or by a round of its refresh loop, leaves in the cache to the byte what the server sent
  (`brought_of_kept`). So the digest of the document is that of the response, reading the cache gives the document, and
  another store that finds this cache fresh reads the same rules from it, without a request (`get_of_file`).

  A store that remembers rules for the very time of this cache hands out those, whatever the cache holds. It has only
  the time to tell one file from another (`a_second_file_of_the_same_time`).
-/

import Untrack.Proofs.Store.Agreement
import Untrack.Proofs.Store.Escapes
import Untrack.Proofs.Store.Serving

namespace Untrack.Store

variable {st : Store} {s : State}

/-- With a fresh cache that is a file with rules, a store hands out what it remembers for the time of the file, or the
rules in it; it asks for nothing and leaves the world as it is. -/
theorem get_of_file {content : Bytes} {t : Int} {document : Text} {rules : Ruleset}
    (file : s.world.shelf.spot = .file content t) (fresh : st.IsFresh s.world)
    (hd : Bytes.Utf8.decode content = .ok document) (hr : Ruleset.ofText document = .ok rules) :
    (st.get s).2.world = s.world ∧
      (st.get s).1 = .ok ((s.memory.recall? (some t)).getD ⟨s.memory.editions, rules⟩) := by
  have stat : s.world.shelf.spot ≠ .blocked := by rw [file]; exact nofun
  constructor
  · rw [get_of_fresh stat fresh, load_world]
  cases known : s.memory.recall? (some t) with
  | some e => rw [get_outcome_of_fresh stat fresh, file, Cache.Spot.time?, recallOr_outcome, known, Option.getD_some]
  | none =>
    rw [get_of_kept file fresh known, hd, Option.getD_none]
    show ((Ruleset.ofText document).mapError Fault.rules >>= _) = _
    rw [hr]
    rfl

/-- The body that the server sent for the rules is the document with the rules of an edition, which a download hands
out, and the cache is this body since the time of the download. -/
structure Brought (st : Store) (s : State) (after : World) (body : Bytes) (document : Text) (e : Edition) : Prop where
  response : (st.source.rulesResponse s.world).Brings body document
  edition : (st.refresh s).1 = .ok e
  rules : Ruleset.ofText document = .ok e.rules
  kept : after.shelf.spot = .file body s.world.now

/-- A document that was checked and kept is what the server sent. -/
theorem brought_of_kept {document : Text} {rules : Ruleset} {w after : World}
    (checked : Download.checked st.source s.world = (.ok (document, rules), w))
    (kept : Cache.writeText st.location document w = (.ok (), after)) :
    st.Brought s after (Bytes.Utf8.encode document) document ⟨s.memory.editions, rules⟩ := by
  have delivered : st.source.Delivers s.world (Bytes.Utf8.encode document) rules :=
    (Download.checked_ok_iff _ _ _ _).mp (by rw [checked])
  obtain ⟨d, brought, read⟩ := delivered.document
  obtain rfl : d = document := Except.ok.inj (brought.2.symm.trans (Bytes.Utf8.decode_encode document))
  refine ⟨brought, ?_, read, ?_⟩
  · obtain ⟨_, refreshed⟩ := st.refresh_run s
    rw [refreshed, checked]
    dsimp only
    rw [kept]
    rfl
  · have now : w.now = s.world.now := by
      have quiet := (Download.checked_quiet st.source s.world).2
      rwa [checked] at quiet
    rcases Cache.writeText_cases st.location d w with ⟨f, h⟩ | ⟨_, h⟩ <;> rw [h] at kept <;> cases kept
    exact congrArg (Cache.Spot.file _) now

/-- A round that succeeds brings a document and tells of its rules. No time goes by. -/
theorem brought_of_round {told : Refresh.Summary} {between : World}
    (h : st.refresher.runOnce s.world = (.ok told, between)) :
    ∃ body document e, st.Brought s between body document e ∧ told = .ofEdition st.location e ∧
      between.now = s.world.now := by
  have source : st.refresher.source = st.source := rfl
  have location : st.refresher.location = st.location := rfl
  rw [Refresh.runOnce_run, source, location] at h
  have looked := (Download.checked_quiet st.source s.world).2
  rcases hc : Download.checked st.source s.world with ⟨f | ⟨document, rules⟩, w⟩ <;> rw [hc] at h looked
  · cases h
  dsimp only at h looked
  rcases hw : Cache.writeText st.location document w with ⟨f | ⟨⟩, after⟩ <;> rw [hw] at h <;> cases h
  refine ⟨_, _, _, brought_of_kept hc hw, rfl, Eq.trans ?_ looked⟩
  rcases Cache.writeText_cases st.location document w with ⟨f, kept⟩ | ⟨_, kept⟩ <;> rw [hw] at kept <;> cases kept
  rfl

/-- The store downloaded rules, or a round of its refresh loop did. -/
def Downloaded (st : Store) (s s' : State) : Prop :=
  (∃ e, st.refresh s = (.ok e, s')) ∨ ∃ summary, Job.ofAct st.refresher.runOnce s = (.ok summary, s')

theorem Downloaded.of_round {summary : Refresh.Summary} (h : (Job.ofAct st.refresher.runOnce s).1 = .ok summary) :
    st.Downloaded s (Job.ofAct st.refresher.runOnce s).2 := Or.inr ⟨summary, Prod.ext h rfl⟩

theorem Downloaded.brought {s' : State} (h : st.Downloaded s s') :
    ∃ body document e, st.Brought s s'.world body document e := by
  rcases h with ⟨e, h⟩ | ⟨summary, h⟩
  · obtain ⟨memory, refreshed⟩ := st.refresh_run s
    rw [h] at refreshed
    rcases hc : Download.checked st.source s.world with ⟨f | ⟨document, rules⟩, w⟩ <;> rw [hc] at refreshed
    · cases refreshed
    dsimp only at refreshed
    rcases hw : Cache.writeText st.location document w with ⟨f | ⟨⟩, after⟩ <;> rw [hw] at refreshed <;> cases refreshed
    exact ⟨_, _, _, brought_of_kept hc hw⟩
  · obtain ⟨body, document, e, brought, _⟩ := brought_of_round (lift_ok h)
    exact ⟨body, document, e, brought⟩

/-- Whenever the store or a round of its refresh loop has downloaded rules: the server sent a body, and the cache has
just its bytes and the time of the download. The digest of the document is that of the body, so that a published hash,
stripped and in lower case, is accepted exactly if it is the body's. Reading the cache gives the document. As long as
the cache stays as it is, any store that it is fresh for hands out the rules that the download has or would have handed
out, without a request, unless it remembers an edition for the very time of this cache: then it hands out that one. -/
theorem download_is_read_back {s' : State} (h : st.Downloaded s s') :
    ∃ body document e, st.Brought s s'.world body document e ∧
      Download.hashOf document = Bytes.sha256 body ∧
      (∀ published, Download.verify document (Download.plainHash published) = .ok () ↔
        Text.lower (Text.strip published) = Bytes.sha256 body) ∧
      Cache.readText st.location s'.world = (.ok document, s'.world) ∧
      ∀ (other : Store) (later : State), later.world.shelf.spot = s'.world.shelf.spot → other.IsFresh later.world →
        (other.get later).2.world = later.world ∧
          (other.get later).1 =
            .ok ((later.memory.recall? (some s.world.now)).getD ⟨later.memory.editions, e.rules⟩) := by
  obtain ⟨body, document, e, brought⟩ := h.brought
  have same : Bytes.Utf8.encode document = body := brought.response.encode
  have digest : Download.hashOf document = Bytes.sha256 body := by rw [Download.hashOf, same]
  refine ⟨body, document, e, brought, digest, fun published => ?_, ?_, fun other later unchanged fresh => ?_⟩
  · rw [Download.verify_ok_iff, digest]
    exact eq_comm
  · have read : s'.world.shelf.read st.location = .ok body := by rw [Cache.Shelf.read, brought.kept]
    rw [Cache.readText_run, read]
    simp only [ok_mapError, Except.bind, brought.response.2]
  · exact get_of_file (unchanged.trans brought.kept) fresh brought.response.2 brought.rules

def accented : Text := "\x7b\"providers\":\x7b\"café\":\x7b\"urlPattern\":\"café\"\x7d\x7d\x7d\r\n".toList

/-- A server with rules that end in a line break of two characters, and their hash. -/
def ofAccented : State := .start 10 ⟨[.reply 200 (Bytes.Utf8.encode accented)], [.reply 200 (Bytes.Utf8.encode
  "\t422DF5C01F7E10B7AE4C476BEAE25930E547BED460D13D9D07D9B56A4F88B6D9\r\n".toList)]⟩

/-- A round keeps them, and half a minute later a store that has read nothing yet has them from the cache. -/
theorem accented_read_back :
    let s' := (Job.ofAct dated.refresher.runOnce ofAccented).2
    let later : State := ⟨(Change.advance 30).apply s'.world, .fresh⟩
    dated.Downloaded ofAccented s' ∧ patient.IsFresh later.world ∧ ∃ body document e,
      dated.Brought ofAccented s'.world body document e ∧ Download.hashOf document = Bytes.sha256 body ∧
        Cache.readText dated.location s'.world = (.ok document, s'.world) ∧
        (patient.get later).2.world = later.world ∧ (patient.get later).1 = .ok ⟨0, e.rules⟩ ∧
        e.rules.names = ["café".toList] := by
  intro s' later
  have outcome : (Job.ofAct dated.refresher.runOnce ofAccented).1 = .ok ⟨1, "cache/rules".toList⟩ := by decide +kernel
  have done : dated.Downloaded ofAccented s' := .of_round outcome
  have aged : ∀ w : World, ((Change.advance 30).apply w).shelf = w.shelf := fun _ => rfl
  have names : (dated.refresh ofAccented).1.map (·.rules.names) = .ok ["café".toList] := by decide +kernel
  obtain ⟨body, document, e, brought, digest, _, read, others⟩ := download_is_read_back done
  have unchanged : later.world.shelf.spot = s'.world.shelf.spot := congrArg (·.spot) (aged s'.world)
  have fresh : patient.IsFresh later.world := ⟨10, by rw [unchanged, brought.kept]; rfl, by decide +kernel⟩
  obtain ⟨quiet, handed⟩ := others patient later unchanged fresh
  rw [brought.edition] at names
  exact ⟨done, fresh, body, document, e, brought, digest, read, quiet, handed, Except.ok.inj names⟩

/-- A store reads the cache; in the same second another one downloads other rules. The first store still hands out
those it remembers, although the cache has the others and is fresh. -/
theorem a_second_file_of_the_same_time :
    let first := patient.get (.start 10 ⟨[.reply 200 noProviders, .reply 200 oneProvider], []⟩)
    let second := patient.refresh ⟨first.2.world, .fresh⟩
    let later : State := ⟨second.2.world, first.2.memory⟩
    later.world.shelf.spot = .file oneProvider 10 ∧ patient.IsFresh later.world ∧
      ∃ e e', second.1 = .ok e ∧ (patient.get later).1 = .ok e' ∧ e'.rules ≠ e.rules := by
  intro first second later
  have kept : later.world.shelf.spot = .file oneProvider 10 := by decide +kernel
  have fresh : patient.IsFresh later.world := ⟨10, by rw [kept]; rfl, by decide +kernel⟩
  have refreshed : second.1.map (·.rules.names) = .ok ["shop".toList] := by decide +kernel
  have handed : (patient.get later).1.map (·.rules.names) = .ok [] := by decide +kernel
  obtain ⟨e, he, shop⟩ := except_map_ok.mp refreshed
  obtain ⟨e', he', none⟩ := except_map_ok.mp handed
  refine ⟨kept, fresh, e, e', he, he', fun same => ?_⟩
  rw [same, shop] at none
  cases none

end Untrack.Store
