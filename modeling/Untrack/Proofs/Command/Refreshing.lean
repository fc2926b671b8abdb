/-
  Untrack.Proofs.Command.Refreshing — the command asked to refresh, and given texts that are no options
  (`cleans_by_what_it_downloads`). A round of the refresh loop brings a document (`Store.brought_of_round`) or leaves
  the cache as it was. The store that cleans knows nothing of the round, only the file. It finds the file fresh, as no
  time went by, and reads the rules of the document from it (`Store.cleanMessage_of_file`), so it asks for nothing and
  cannot fail.
-/

import Untrack.Proofs.Command.Ending
import Untrack.Proofs.Store.Failure
import Untrack.Proofs.Store.ReadBack
import Untrack.Settings.Basic

namespace Untrack

open Message (links)

/-- However a round ends, it makes the requests of a download. -/
theorem Refresh.runOnce_exchanges (r : Refresh) (w : World) :
    (r.runOnce w).2.exchanges = w.exchanges ++ r.source.exchanges w := by
  rw [runOnce_run, ← Download.checked_exchanges]
  rcases Download.checked r.source w with ⟨f | ⟨document, rules⟩, after⟩
  · rfl
  · dsimp only
    rcases Cache.writeText_cases r.location document after with ⟨f, h⟩ | ⟨_, h⟩
    · rw [h]
    · rw [h]
      rfl

/-- A store that remembers nothing and finds its cache fresh and a file with rules cleans by these rules, whatever the
message, and leaves the world as it is. -/
theorem Store.cleanMessage_of_file {st : Store} {state : State} {content : Bytes} {t : Int} {document : Text}
    {rules : Ruleset} (new : state.memory.latest = none) (file : state.world.shelf.spot = .file content t)
    (fresh : st.IsFresh state.world) (hd : Bytes.Utf8.decode content = .ok document)
    (hr : Ruleset.ofText document = .ok rules) (s : Sanitizer) (message : Text) :
    (st.cleanMessage s message state).1 = .ok ((links message).map (.alone s rules)) ∧
      (st.cleanMessage s message state).2.world = state.world := by
  obtain ⟨quiet, handed⟩ := get_of_file file fresh hd hr
  have unknown : state.memory.recall? (some t) = none := by rw [Memory.recall?, new]
  rw [unknown] at handed
  refine ⟨cleanMessage_entries (State.learned_of_none new) handed, ?_⟩
  rw [cleanMessage_run]
  split
  · rfl
  · exact quiet

/-! ## The command -/

namespace Command

variable {st : Store} {s : Sanitizer} {texts : List Text} {state : State}

/-- Asked to refresh, the command cleans the message that the texts make up once a round has succeeded. -/
theorem run_of_refresh (plain : ∀ t ∈ texts, t.head? ≠ some '-') :
    Command.run st s ("--refresh".toList :: texts) state =
      match st.refresher.runOnce state.world with
      | (.error f, between) => failed "" f { state with world := between }
      | (.ok told, between) =>
        match st.cleanMessage s (['\n'].intercalate texts) { state with world := between } with
        | (.error f, after) => failed (refreshed told) f after
        | (.ok results, after) => (.ok ⟨0, refreshed told ++ lines results, ""⟩, after) := by
  have first : refreshFirst st.refresher true state.world =
      ((st.refresher.runOnce state.world).1.map refreshed, (st.refresher.runOnce state.world).2) := by
    have start : refreshFirst st.refresher true = st.refresher.runOnce >>= fun told => pure (refreshed told) := rfl
    rw [start, bind_run]
    rcases st.refresher.runOnce state.world with ⟨_ | _, _⟩ <;> rfl
  rw [Command.run, ofArguments_refresh plain]
  dsimp only
  rw [clean_run, first]
  rcases st.refresher.runOnce state.world with ⟨_ | _, _⟩ <;> rfl

theorem run_of_refused (plain : ∀ t ∈ texts, t.head? ≠ some '-') {f : Fault} {between : World}
    (h : st.refresher.runOnce state.world = (.error f, between)) :
    Command.run st s ("--refresh".toList :: texts) state =
      (if f.isOfRules then .ok ⟨1, "", "error: " ++ f.message ++ "\n"⟩ else .error f,
        { state with world := between }) := by
  rw [run_of_refresh plain, h]
  exact failed_run "" f _

/-- Once a round has succeeded, the links are cleaned by the rules of the document that it brought. -/
theorem run_of_brought (lasting : 0 ≤ st.maxAge.micros) (plain : ∀ t ∈ texts, t.head? ≠ some '-')
    (new : state.memory.latest = none) {told : Refresh.Summary} {between : World} {body : Bytes} {document : Text}
    {e : Edition} (h : st.refresher.runOnce state.world = (.ok told, between)) (now : between.now = state.world.now)
    (brought : st.Brought state between body document e) :
    ∃ after, after.world = between ∧ Command.run st s ("--refresh".toList :: texts) state =
      (.ok ⟨0, refreshed told ++ lines ((links (['\n'].intercalate texts)).map (.alone s e.rules)), ""⟩, after) := by
  have fresh : st.IsFresh between := by
    refine ⟨state.world.now, by rw [brought.kept]; rfl, ?_⟩
    rw [now, Int.sub_self]
    exact lasting
  have new : (State.mk between state.memory).memory.latest = none := new
  obtain ⟨cleaned, quiet⟩ := Store.cleanMessage_of_file new brought.kept fresh brought.response.2 brought.rules s
    (['\n'].intercalate texts)
  rw [run_of_refresh plain, h]
  dsimp only
  rcases hm : st.cleanMessage s (['\n'].intercalate texts) ⟨between, state.memory⟩ with ⟨r, after⟩
  rw [hm] at cleaned quiet
  dsimp only at cleaned quiet
  subst cleaned
  exact ⟨after, quiet, rfl⟩

/-- Asked to refresh and given texts that are no options, whatever stands at the cache's path and whatever the server
answers, the command makes one request in all, for the rules, if it does not verify them. If the refresh fails, the
cache stays as it was and nothing is printed, though the cache might have served: the fault is told and the command
ends with code 1, or the fault escapes if it is not foreseen. If not, the command ends with code 0. It tells of the
refresh and prints a line for each link of the texts, in order, which says what came of the link by the rules of the
document that the server sent. -/
theorem cleans_by_what_it_downloads (st : Store) (s : Sanitizer) (unverified : st.source.verifies = false)
    (lasting : 0 ≤ st.maxAge.micros) {texts : List Text} (plain : ∀ t ∈ texts, t.head? ≠ some '-') {state : State}
    (new : state.memory.latest = none) :
    let ran := Command.run st s ("--refresh".toList :: texts) state
    ran.2.world.exchanges = state.world.exchanges ++ [⟨st.source.rulesUrl, st.source.rulesResponse state.world⟩] ∧
      (∀ f, (st.refresher.runOnce state.world).1 = .error f → ran.2.world.shelf = state.world.shelf ∧
        ran.1 = if f.isOfRules then .ok ⟨1, "", "error: " ++ f.message ++ "\n"⟩ else .error f) ∧
      ∀ told, (st.refresher.runOnce state.world).1 = .ok told →
        ∃ body document rules, (st.source.rulesResponse state.world).Brings body document ∧
          Ruleset.ofText document = .ok rules ∧ told = ⟨rules.size, st.location.path⟩ ∧
          ran.1 = .ok ⟨0, refreshed told ++
            lines ((links (['\n'].intercalate texts)).map (.alone s rules)), ""⟩ ∧
          ran.2.world.shelf.spot = .file body state.world.now := by
  intro ran
  have source : st.refresher.source = st.source := rfl
  have once : (st.refresher.runOnce state.world).2.exchanges =
      state.world.exchanges ++ [⟨st.source.rulesUrl, st.source.rulesResponse state.world⟩] := by
    rw [Refresh.runOnce_exchanges, source, Source.exchanges, unverified]
    rfl
  rcases h : st.refresher.runOnce state.world with ⟨f | told, between⟩ <;> rw [h] at once
  · have run : ran = _ := run_of_refused plain h
    rw [run]
    refine ⟨once, fun g failed => ?_, fun _ succeeded => ?_⟩
    · cases failed
      exact ⟨Refresh.runOnce_error h, rfl⟩
    · cases succeeded
  · obtain ⟨body, document, e, brought, counted, now⟩ := Store.brought_of_round h
    obtain ⟨after, rfl, run⟩ := run_of_brought lasting plain new h now brought
    have run : ran = _ := run
    rw [run]
    refine ⟨once, fun _ failed => ?_, fun _ succeeded => ?_⟩
    · cases failed
    · cases succeeded
      exact ⟨body, document, e.rules, brought.response, brought.rules, counted, rfl, brought.kept⟩

/-- The store of the settings that hold where the environment says nothing. -/
def daily : Store := ⟨Settings.standard.source, Settings.standard.location, ⟨86400000000⟩⟩

/-- A minute ago rules were kept that concern nobody. -/
def minuteOld (server : Server) : State :=
  ⟨{ World.start 60 server with shelf := ⟨.file Store.ruleless 0, [], []⟩ }, .fresh⟩

/-- A server that has the rules for mail. -/
def mailServer : Server := ⟨[.reply 200 (Bytes.Utf8.encode Sanitizer.mailbox)], []⟩

/-- With a server that has nothing the command fails, although the cache is fresh. With one that has rules they are what
a link is cleaned by. -/
theorem daily_refreshed :
    let texts := ["see".toList, "https://mail.example/out?to=http%3A%2F%2Fshop".toList]
    let silent := Command.run daily .standard ("--refresh".toList :: texts) (minuteOld .silent)
    let answered := Command.run daily .standard ("--refresh".toList :: texts) (minuteOld mailServer)
    Settings.standard.store = .ok daily ∧ daily.source.verifies = false ∧ 0 ≤ daily.maxAge.micros ∧
      (∀ t ∈ texts, t.head? ≠ some '-') ∧ (∀ server, (minuteOld server).memory.latest = none) ∧
      (daily.IsFresh (minuteOld .silent).world ∧
        silent.2.world.shelf = (minuteOld .silent).world.shelf ∧ silent.1 =
          .ok ⟨1, "", "error: GET https://rules2.clearurls.xyz/data.minify.json returned HTTP 404\n"⟩) ∧
      answered.1 = .ok ⟨0, "rules: 1 providers -> artifacts/rules/data.minify.json\nhttp://shop\n", ""⟩ ∧
      answered.2.world.requests = ["https://rules2.clearurls.xyz/data.minify.json".toList] := by
  intro texts silent answered
  have settings : Settings.standard.store = .ok daily := by rfl
  have plain : ∀ t ∈ texts, t.head? ≠ some '-' := by decide
  have unasked : ∀ server, (minuteOld server).memory.latest = none := fun _ => rfl
  have fresh : daily.IsFresh (minuteOld .silent).world := ⟨0, rfl, by decide⟩
  have lasting : 0 ≤ daily.maxAge.micros := by decide
  obtain ⟨_, refused, _⟩ := cleans_by_what_it_downloads daily .standard rfl lasting plain (unasked .silent)
  obtain ⟨once, _, cleaned⟩ := cleans_by_what_it_downloads daily .standard rfl lasting plain (unasked mailServer)
  have missing : (daily.refresher.runOnce (minuteOld .silent).world).1 =
    .error (.fetch (.status daily.source.rulesUrl 404)) := by decide +kernel
  have brought : (daily.refresher.runOnce (minuteOld mailServer).world).1 = .ok ⟨1, daily.location.path⟩ := by
    decide +kernel
  obtain ⟨body, document, rules, brings, read, _, report, _⟩ := cleaned _ brought
  refine ⟨settings, rfl, lasting, plain, unasked, ⟨fresh, refused _ missing⟩, ?_, ?_⟩
  · -- what the server sent is the mailbox, so the rules are those of the mailbox
    have sent : daily.source.rulesResponse (minuteOld mailServer).world =
      .reply 200 (Bytes.Utf8.encode Sanitizer.mailbox) := rfl
    obtain rfl : body = Bytes.Utf8.encode Sanitizer.mailbox := (Response.reply.inj (brings.1.symm.trans sent)).2
    obtain rfl : document = Sanitizer.mailbox :=
      Except.ok.inj (brings.2.symm.trans (Bytes.Utf8.decode_encode Sanitizer.mailbox))
    have known : Ruleset.ofText Sanitizer.mailbox = .ok Store.mailRules := by decide +kernel
    obtain rfl : rules = Store.mailRules := Except.ok.inj (read.symm.trans known)
    have printed : refreshed ⟨1, daily.location.path⟩ ++
        lines ((links (['\n'].intercalate texts)).map (.alone .standard Store.mailRules)) =
        "rules: 1 providers -> artifacts/rules/data.minify.json\nhttp://shop\n" := by decide +kernel
    exact report.trans (by rw [printed])
  · rw [World.requests, once]
    rfl

end Command
end Untrack
