/-
  Untrack.Proofs.Store.Freshness — when a store asks the server, and what then decides whether it has rules to hand
  out (`get_by_freshness`). A cache that is fresh is loaded, and nothing is asked. With any other the store downloads:
  the rules are asked for once, and after them, once, their hash if the source is verified and the rules that came are
  a text (`Source.exchanges`). What came of these requests and whether a document can stand at the cache's path is all
  that counts (`Source.Delivers`, `Shelf.IsWritable`): neither the rules remembered nor the old cache stand in for a
  download that failed.
-/

import Untrack.Proofs.Store.Phases
import Untrack.Proofs.World.History
import Untrack.Proofs.World.Published

namespace Untrack

/-! ## What a download is brought -/

/-- The response is this body, which is this text. -/
def Response.Brings (r : Response) (body : Bytes) (t : Text) : Prop :=
  r = .reply 200 body ∧ Bytes.Utf8.decode body = .ok t

theorem Response.Brings.encode {r : Response} {body : Bytes} {t : Text} (h : r.Brings body t) :
    Bytes.Utf8.encode t = body := Bytes.Utf8.encode_of_decode h.2

/-- Whether the response has status 200 and a body that is UTF-8. -/
def Response.isText : Response → Bool
  | .failure _ => false
  | .reply status body => status == 200 && (Bytes.Utf8.decode body).isOk

theorem Download.textOf_ok_iff {url : Text} {r : Response} {t : Text} :
    textOf url r = .ok t ↔ ∃ body, r.Brings body t := by
  constructor
  · exact textOf_ok
  · rintro ⟨body, rfl, hb⟩
    simp only [textOf, if_true, hb, ok_mapError]

theorem Download.isOk_textOf (url : Text) (r : Response) : (textOf url r).isOk = r.isText := by
  cases r with
  | failure reason => rfl
  | reply status body =>
    by_cases hs : status = 200
    · simp only [textOf, Response.isText, hs, if_true, beq_self_eq_true, Bool.true_and]
      cases Bytes.Utf8.decode body <;> rfl
    · simp only [textOf, Response.isText, hs, if_false, beq_eq_false_iff_ne.mpr hs, Bool.false_and]
      rfl

namespace Source

/-- The response to a request for the rules. -/
def rulesResponse (s : Source) (w : World) : Response := (w.ask s.rulesUrl).1

/-- The world once the rules and their hash were asked for. -/
def askedBoth (s : Source) (w : World) : World := ((w.ask s.rulesUrl).2.ask s.hashUrl).2

/-- The response to a request for the hash right after one for the rules. -/
def hashResponse (s : Source) (w : World) : Response := ((w.ask s.rulesUrl).2.ask s.hashUrl).1

/-- The exchanges of a download: one for the rules, and one for the hash if there is something to compare it with. -/
def exchanges (s : Source) (w : World) : List Exchange :=
  ⟨s.rulesUrl, s.rulesResponse w⟩ ::
    if s.verifies && (s.rulesResponse w).isText then [⟨s.hashUrl, s.hashResponse w⟩] else []

/-- The rules response is this content, with these rules in it, and if the source is verified the hash response is
the digest of the content, with white space around it and in either case. -/
structure Delivers (s : Source) (w : World) (content : Bytes) (rules : Ruleset) : Prop where
  document : ∃ document, (s.rulesResponse w).Brings content document ∧ Ruleset.ofText document = .ok rules
  hash : s.verifies = true → ∃ body t, (s.hashResponse w).Brings body t ∧
    Text.lower (Text.strip t) = Bytes.sha256 content

end Source

/-! ## The checks of a download -/

namespace Download

/-- A document is verified exactly if what is published is its digest. -/
theorem verify_ok_iff {document t : Text} : verify document (plainHash t) = .ok () ↔ hashOf document = plainHash t := by
  refine ⟨sha256_of_verify, fun same => ?_⟩
  have again : plainHash (plainHash t) = plainHash t :=
    plainHash_of_isDigit fun d hd => by
      rw [← same] at hd
      exact isDigit_of_mem_sha256 hd
  rw [verify, if_pos (same.trans again.symm)]

theorem hash_run (s : Source) (w : World) :
    hash s w = (((textOf s.hashUrl (w.ask s.hashUrl).1).mapError .fetch).map plainHash, (w.ask s.hashUrl).2) := by
  have start : fetch s.hashUrl w = ((textOf s.hashUrl (w.ask s.hashUrl).1).mapError .fetch, (w.ask s.hashUrl).2) := rfl
  rw [hash, bind_run, start]
  rcases textOf s.hashUrl (w.ask s.hashUrl).1 with _ | _ <;> rfl

/-- What the checks come to depends on the two responses only. Nothing more is asked for once the rules are no text,
and the hash is asked for before the document is read. -/
theorem checked_run (s : Source) (w : World) :
    checked s w =
      (do
        let document ← (textOf s.rulesUrl (s.rulesResponse w)).mapError .fetch
        if s.verifies then
          let t ← (textOf s.hashUrl (s.hashResponse w)).mapError .fetch
          (verify document (plainHash t)).mapError .fetch
        let rules ← (Ruleset.ofText document).mapError .rules
        return (document, rules),
      if s.verifies && (s.rulesResponse w).isText then s.askedBoth w else (w.ask s.rulesUrl).2) := by
  have fetched : rules s w = ((textOf s.rulesUrl (s.rulesResponse w)).mapError .fetch, (w.ask s.rulesUrl).2) := rfl
  have hashed : hash s (w.ask s.rulesUrl).2 =
      (((textOf s.hashUrl (s.hashResponse w)).mapError .fetch).map plainHash, s.askedBoth w) := hash_run s _
  have read : ∀ (document : Text) (w : World), (do
      let rules ← Ruleset.parse document
      return (document, rules) : Act (Text × Ruleset)) w =
      ((do
        let rules ← (Ruleset.ofText document).mapError .rules
        return (document, rules)), w) := fun document w => by
    rw [bind_run, Ruleset.parse_run]
    rcases Ruleset.ofText document with _ | _ <;> rfl
  rw [checked, bind_run, fetched, ← isOk_textOf s.rulesUrl]
  rcases textOf s.rulesUrl (s.rulesResponse w) with f | document
  · rw [show (Except.error f : Except FetchFault Text).isOk = false from rfl, Bool.and_false]
    rfl
  by_cases hv : s.verifies = true
  · simp only [hv, if_true, ok_mapError]
    rw [bind_run, hashed]
    rcases textOf s.hashUrl (s.hashResponse w) with f | t
    · rfl
    simp only [ok_mapError, Except.map]
    rw [bind_run, Act.ofExcept_run]
    show _ =
      (do
        (verify document (plainHash t)).mapError Fault.fetch
        let rules ← (Ruleset.ofText document).mapError .rules
        return (document, rules), s.askedBoth w)
    rcases verify document (plainHash t) with f | ⟨⟩
    · rfl
    · exact read document _
  · simp only [hv, Bool.false_eq_true, if_false, ok_mapError]
    exact read document _

/-- Whatever the checks come to, these are the requests they make. -/
theorem checked_exchanges (s : Source) (w : World) :
    (checked s w).2.exchanges = w.exchanges ++ s.exchanges w := by
  have once : (w.ask s.rulesUrl).2.exchanges = w.exchanges ++ [⟨s.rulesUrl, s.rulesResponse w⟩] := rfl
  have both : (s.askedBoth w).exchanges =
      w.exchanges ++ [⟨s.rulesUrl, s.rulesResponse w⟩] ++ [⟨s.hashUrl, s.hashResponse w⟩] := rfl
  rw [checked_run, Source.exchanges]
  dsimp only
  split
  · simp [both]
  · simp [once]

/-- The checks are passed exactly by what is delivered. -/
theorem checked_ok_iff (s : Source) (w : World) (document : Text) (rules : Ruleset) :
    (checked s w).1 = .ok (document, rules) ↔ s.Delivers w (Bytes.Utf8.encode document) rules := by
  rw [checked_run]
  constructor
  · intro h
    obtain ⟨d, hd, h⟩ := except_bind_ok.mp h
    obtain ⟨body, brought⟩ := textOf_ok_iff.mp (mapError_ok.mp hd)
    by_cases hv : s.verifies = true
    · simp only [hv, if_true, except_bind_ok, mapError_ok, textOf_ok_iff] at h
      obtain ⟨t, ⟨hash, published⟩, ⟨⟩, same, r, read, h⟩ := h
      cases h
      rw [brought.encode]
      refine ⟨⟨_, brought, read⟩, fun _ => ⟨hash, t, published, ?_⟩⟩
      rw [← brought.encode]
      exact (verify_ok_iff.mp same).symm
    · simp only [hv, Bool.false_eq_true, if_false, except_bind_ok, mapError_ok] at h
      obtain ⟨r, read, h⟩ := h
      cases h
      rw [brought.encode]
      exact ⟨⟨_, brought, read⟩, fun h => absurd h hv⟩
  · rintro ⟨⟨d, brought, read⟩, verified⟩
    obtain rfl : d = document := by
      have := brought.2.symm.trans (Bytes.Utf8.decode_encode document)
      exact Except.ok.inj this
    refine except_bind_ok.mpr ⟨d, mapError_ok.mpr (textOf_ok_iff.mpr ⟨_, brought⟩), ?_⟩
    by_cases hv : s.verifies = true
    · obtain ⟨hash, t, published, same⟩ := verified hv
      simp only [hv, if_true, except_bind_ok, mapError_ok, textOf_ok_iff]
      exact ⟨t, ⟨hash, published⟩, ⟨⟩, verify_ok_iff.mpr same.symm, rules, read, rfl⟩
    · simp only [hv, Bool.false_eq_true, if_false, except_bind_ok, mapError_ok]
      exact ⟨rules, read, rfl⟩

end Download

/-! ## Keeping a document -/

/-- A document can be put at the cache's path: neither a folder stands there, nor does the path lead through a file. -/
def Cache.Shelf.IsWritable (s : Shelf) : Prop := (∀ t, s.spot ≠ .folder t) ∧ s.spot ≠ .blocked

theorem Cache.writeText_ok_iff (l : Location) (document : Text) (w : World) :
    (Cache.writeText l document w).1 = .ok () ↔ w.shelf.IsWritable := by
  refine mapError_ok.trans ?_
  obtain ⟨now, ⟨spot, drafts, past⟩, server, exchanges⟩ := w
  cases spot <;> simp [Shelf.publish, Shelf.addDraft, Shelf.IsWritable]

namespace Store

/-- With nobody else at work, a checked document is adopted exactly if it can be put at the path. -/
theorem adopt_ok_iff (st : Store) (document : Text) (rules : Ruleset) (s : State) :
    (∃ e, (st.adopt .nothing document rules s).1 = .ok e) ↔ s.world.shelf.IsWritable := by
  rw [← Cache.writeText_ok_iff st.location document, adopt, bind_run, lift_run]
  rcases Cache.writeText_cases st.location document s.world with ⟨f, h⟩ | ⟨_, h⟩ <;> rw [h]
  · exact ⟨(fun h => nomatch h), (fun h => nomatch h)⟩
  · exact ⟨fun _ => rfl, fun _ => ⟨⟨s.memory.editions, rules⟩, rfl⟩⟩

/-! ## A download with nobody else at work -/

section Download

variable {st : Store} {s : State} {document : Text} {rules : Ruleset}

/-- The state of a download once its checks are over. -/
def checkedState (st : Store) (s : State) : State := { s with world := (Download.checked st.source s.world).2 }

theorem download_of_refused {f : Fault} (h : (Download.checked st.source s.world).1 = .error f) :
    st.download .nothing s = (.error f, st.checkedState s) := by
  rw [download_eq]
  refine bind_of_error ?_
  rw [lift_run, h]
  rfl

theorem download_of_checked (h : (Download.checked st.source s.world).1 = .ok (document, rules)) :
    st.download .nothing s = st.adopt .nothing document rules (st.checkedState s) := by
  have start : (liftM (Download.checked st.source) : Job _) s = (.ok (document, rules), st.checkedState s) := by
    rw [lift_run, h]
    rfl
  rw [download_eq, bind_of_ok start]

theorem download_exchanges (st : Store) (s : State) :
    (st.download .nothing s).2.world.exchanges = s.world.exchanges ++ st.source.exchanges s.world := by
  rw [← Download.checked_exchanges]
  rcases h : (Download.checked st.source s.world).1 with f | ⟨document, rules⟩
  · rw [download_of_refused h]
    rfl
  rw [download_of_checked h]
  rcases st.adopt_cases (m := .nothing) rfl document rules (st.checkedState s) with ⟨f, h⟩ | ⟨_, h⟩ <;> rw [h] <;> rfl

/-- A download gives the rules that were delivered, and leaves what they were in at the cache's path. -/
theorem download_ok {e : Edition} (h : (st.download .nothing s).1 = .ok e) :
    s.world.shelf.IsWritable ∧ ∃ content, st.source.Delivers s.world content e.rules ∧
      (st.download .nothing s).2.world.shelf.spot = .file content s.world.now := by
  obtain ⟨shelf, now⟩ := Download.checked_quiet st.source s.world
  rcases hc : (Download.checked st.source s.world).1 with f | ⟨document, rules⟩
  · rw [download_of_refused hc] at h
    cases h
  rw [download_of_checked hc] at h ⊢
  have writable := (st.adopt_ok_iff document rules (st.checkedState s)).mp ⟨e, h⟩
  rw [checkedState, shelf] at writable
  refine ⟨writable, Bytes.Utf8.encode document, ?_⟩
  rcases st.adopt_cases (m := .nothing) rfl document rules (st.checkedState s) with ⟨f, ha⟩ | ⟨_, ha⟩
  · rw [ha] at h
    cases h
  · rw [ha] at h ⊢
    cases h
    exact ⟨(Download.checked_ok_iff _ _ _ _).mp hc, congrArg (Cache.Spot.file _) now⟩

/-- Rules that are delivered are downloaded, if a document can be put at the path. -/
theorem download_of_delivers {content : Bytes} (h : st.source.Delivers s.world content rules)
    (writable : s.world.shelf.IsWritable) : ∃ e, (st.download .nothing s).1 = .ok e := by
  obtain ⟨document, brought, _⟩ := h.document
  rw [← brought.encode] at h
  rw [download_of_checked ((Download.checked_ok_iff _ _ _ _).mpr h), adopt_ok_iff, checkedState,
    (Download.checked_quiet st.source s.world).1]
  exact writable

end Download

/-! ## Fresh and stale -/

/-- Something stands at the cache's path that was modified no longer ago than allowed. -/
def IsFresh (st : Store) (w : World) : Prop :=
  ∃ t, w.shelf.spot.time? = some t ∧ (Duration.ofSeconds (w.now - t)).micros ≤ st.maxAge.micros

theorem isOutdated_iff (st : Store) (w : World) :
    Cache.isOutdated st.maxAge w.now w.shelf.spot.time? = true ↔ ¬ st.IsFresh w := by
  unfold IsFresh Cache.isOutdated
  cases w.shelf.spot.time? <;> simp

theorem modified?_of_stat {l : Location} {s : Cache.Shelf} (h : s.spot ≠ .blocked) :
    s.modified? l = .ok s.spot.time? := by
  unfold Cache.Shelf.modified?
  cases hs : s.spot <;> first | rfl | exact absurd hs h

/-- A fresh cache is loaded. -/
theorem get_of_fresh {st : Store} {s : State} (stat : s.world.shelf.spot ≠ .blocked) (fresh : st.IsFresh s.world) :
    st.get s = st.load .nothing s := by
  have looked : (st.isStale s.world).1 = .ok false := by
    rw [isStale_run, modified?_of_stat stat]
    refine congrArg Except.ok (Bool.eq_false_iff.mpr fun stale => ?_)
    exact (st.isOutdated_iff s.world).mp stale fresh
  rw [get, getAmid_run, looked]

/-- With any other cache the rules are downloaded: taking the lock does not make it fresh. -/
theorem get_of_stale {st : Store} {s : State} (stat : s.world.shelf.spot ≠ .blocked) (stale : ¬ st.IsFresh s.world) :
    st.get s = st.download .nothing s := by
  have looked : (st.isStale s.world).1 = .ok true := by
    rw [isStale_run, modified?_of_stat stat]
    exact congrArg Except.ok ((st.isOutdated_iff s.world).mpr stale)
  have again : (st.isStale (s.atLock .nothing).world).1 = .ok true := looked
  rw [get, getAmid_run, looked]
  dsimp only
  rw [again]
  rfl

/-- A cache that is loaded stays as it is, and nothing is asked. -/
theorem load_world (st : Store) (s : State) : (st.load .nothing s).2.world = s.world := by
  rw [load_run]
  rcases s.world.shelf.modified? st.location with f | modified
  · rfl
  · exact st.recallOr_world modified s

/-- Whatever a store remembers, as long as the path of its cache leads somewhere and nobody else is at work: with a
fresh cache it asks for nothing and leaves the world as it is. With no cache, or one older than allowed, it asks for
the rules and, if the source is verified and they came as a text, for their hash, each once. Then it has rules to hand
out exactly if a document can be put at the path and rules were delivered. These it hands out, and what they were in is
the cache from now on. -/
theorem get_by_freshness (st : Store) (s : State) (stat : s.world.shelf.spot ≠ .blocked) :
    (st.IsFresh s.world → (st.get s).2.world = s.world) ∧
      (¬ st.IsFresh s.world →
        (st.get s).2.world.exchanges = s.world.exchanges ++ st.source.exchanges s.world ∧
        ((∃ e, (st.get s).1 = .ok e) ↔
          s.world.shelf.IsWritable ∧ ∃ content rules, st.source.Delivers s.world content rules) ∧
        ∀ e, (st.get s).1 = .ok e → ∃ content, st.source.Delivers s.world content e.rules ∧
          (st.get s).2.world.shelf.spot = .file content s.world.now) := by
  refine ⟨fun fresh => ?_, fun stale => ?_⟩
  · rw [get_of_fresh stat fresh, load_world]
  rw [get_of_stale stat stale]
  refine ⟨st.download_exchanges s, ⟨?_, ?_⟩, fun e he => (download_ok he).2⟩
  · rintro ⟨e, he⟩
    obtain ⟨writable, content, delivered, _⟩ := download_ok he
    exact ⟨writable, content, e.rules, delivered⟩
  · rintro ⟨writable, content, rules, delivered⟩
    exact download_of_delivers delivered writable

/-- A store that keeps its cache for a minute and checks what it downloads. -/
def dated : Store := ⟨⟨"http://host/rules".toList, "http://host/hash".toList, true⟩,
  ⟨"cache/rules".toList, "cache".toList⟩, .ofSeconds 60⟩

def ruleless : Bytes := Bytes.Utf8.encode "\x7b\"providers\":\x7b\x7d\x7d".toList

/-- A cache modified at 40 and remembered, and a server that has its rules and their hash, at a time. -/
def remembered (now : Int) : State where
  world := { World.start now ⟨[.reply 200 ruleless], [.reply 200 (Bytes.Utf8.encode
      " 9AECF438C3F923CE02F488BE25CAE648068D632535D5EC4D38B0FA6ABB6B055F\n".toList)]⟩ with
    shelf := ⟨.file ruleless 40, [], []⟩ }
  memory := ⟨some (⟨0, ⟨[]⟩⟩, some 40), 1⟩

/-- A cache is fresh up to the last second that it is to be kept. A second later all is asked for again, although the
rules are remembered. -/
theorem remembered_for_a_minute :
    ((remembered 100).world.shelf.spot ≠ .blocked ∧ (dated.get (remembered 100)).2.world = (remembered 100).world) ∧
      (remembered 101).world.shelf.spot ≠ .blocked ∧
        (dated.get (remembered 101)).2.world.requests = [dated.source.rulesUrl, dated.source.hashUrl] ∧
        ∃ e content, (dated.get (remembered 101)).1 = .ok e ∧ e.serial = 1 ∧
          dated.source.Delivers (remembered 101).world content e.rules ∧
          (dated.get (remembered 101)).2.world.shelf.spot = .file content 101 := by
  have stat : ∀ now, (remembered now).world.shelf.spot ≠ .blocked := fun _ h => nomatch h
  have fresh : dated.IsFresh (remembered 100).world := ⟨40, rfl, by decide⟩
  have stale : ¬ dated.IsFresh (remembered 101).world := by
    rintro ⟨_, ⟨⟩, h⟩
    exact absurd h (by decide)
  obtain ⟨exchanged, _, handed⟩ := (get_by_freshness dated (remembered 101) (stat 101)).2 stale
  obtain ⟨e, he, serial⟩ : ∃ e, (dated.get (remembered 101)).1 = .ok e ∧ e.serial = 1 :=
    ⟨⟨1, ⟨[]⟩⟩, by decide +kernel, rfl⟩
  obtain ⟨content, delivered, kept⟩ := handed e he
  refine ⟨⟨stat 100, (get_by_freshness dated (remembered 100) (stat 100)).1 fresh⟩, stat 101, ?_, e, content, he,
    serial, delivered, kept⟩
  rw [World.requests, exchanged]
  decide +kernel

end Store
end Untrack
