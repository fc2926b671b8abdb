/-
  Untrack.Proofs.Store.Messages — messages cleaned with the rules of a store, each link on its own
  (`links_cleaned_apart`). The store is asked once if there is a link (`clean_counted`). Nothing then depends on the
  place of a link in the message, so that what comes of two texts comes of them one after the other
  (`cleanMessage_append`).

  Whatever is wrong with a link stays with it, if every redirection of the rules has a group
  (`Message.cleanLinks_of_targets`). So it is with rules that were read from a document, and no others are handed out:
  those that a store remembers were read (`State.Learned`), and go on to be, whatever happens (`run_learned`).
-/

import Untrack.Proofs.Message.Links
import Untrack.Proofs.Ruleset.Handmade
import Untrack.Proofs.Sanitizer.Faults
import Untrack.Proofs.Store.Escapes
import Untrack.Proofs.Store.Steps

namespace Untrack

open Message (links)

/-! ## Rules that were read -/

namespace State

/-- The rules that are remembered, if any, were read from a document. -/
def Learned (s : State) : Prop :=
  ∀ e t, s.memory.latest = some (e, t) → ∃ document, Ruleset.ofText document = .ok e.rules

theorem learned_of_none {s : State} (h : s.memory.latest = none) : s.Learned := fun e t he => by
  rw [h] at he
  cases he

/-- If the rules that were remembered before were read, so are those remembered after. -/
def KeepsLearned (s s' : State) : Prop := s.Learned → s'.Learned

instance isPreorder_keepsLearned : IsPreorder State KeepsLearned where
  refl _ h := h
  trans _ _ _ h k hs := k (h hs)

end State

namespace Store

variable {α : Type} {st : Store} {m : Meanwhile} {state : State}

/-- What happens to the world has no part in what is remembered. -/
theorem lift_learned (t : Act α) : Within State.KeepsLearned (liftM t : Job α) := within_lift fun _ _ h => h

theorem remember_learned {document : Text} {rules : Ruleset} (read : Ruleset.ofText document = .ok rules)
    (modified : Option Int) : Within State.KeepsLearned (remember rules modified) := by
  intro s _ e t he
  cases he
  exact ⟨document, read⟩

theorem download_learned : Within State.KeepsLearned (st.download m) := by
  rw [download_eq]
  refine within_bind_of (lift_learned _) ?_
  rintro ⟨document, rules⟩ s s' h
  have read : Ruleset.ofText document = .ok rules := Download.checked_rules (lift_ok h)
  exact within_bind (lift_learned _) (fun _ => within_bind (lift_learned _) fun _ =>
    within_bind (lift_learned _) fun _ => remember_learned read _) s'

theorem recallOr_learned (modified : Option Int) : Within State.KeepsLearned (st.recallOr modified) := by
  refine within_bind (fun _ h => h) fun memory => ?_
  split
  · exact within_pure _
  · refine within_bind (lift_learned _) fun document => within_bind_of (lift_learned _) fun rules s s' h => ?_
    have read : (Ruleset.ofText document).mapError Fault.rules = .ok rules := congrArg Prod.fst (lift_ok h)
    exact remember_learned (mapError_ok.mp read) _ s'

theorem getAmid_learned : Within State.KeepsLearned (st.getAmid m) :=
  getAmid_within (fun _ _ _ _ h => h) (fun _ _ h => h) download_learned
    (load_within (fun _ _ _ _ h => h) download_learned recallOr_learned)

theorem run_learned (st : Store) (steps : List Step) {s : State} (h : s.Learned) : (st.run steps s).2.Learned := by
  have carried : ∀ w w' : World, w.Carries State.KeepsLearned w' := fun _ _ _ h => h
  have kept : s.KeepsLearned (st.run steps s).2 := st.run_within (fun _ _ =>
    take_within st (fun w w' _ => carried w w') (fun _ _ => getAmid_learned) download_learned
      (fun w => carried w _) (fun _ _ w => carried w _) fun _ _ w => carried w _) s
  exact kept h

/-- The redirections of rules that are handed out have groups. -/
theorem get_hasTargets {e : Edition} (known : state.Learned) (h : (st.get state).1 = .ok e) : e.rules.HasTargets := by
  have read : ∃ document, Ruleset.ofText document = .ok e.rules := by
    rcases get_ok_cases h with ⟨t, latest⟩ | read
    · exact known e t latest
    · exact read
  exact Ruleset.IsRead.hasTargets (Or.inl read)

end Store

/-! ## Links -/

/-- What comes of a link alone. -/
def LinkResult.alone (s : Sanitizer) (rules : Ruleset) (link : Text) : LinkResult := ⟨link, s.sanitize link rules⟩

namespace Message

variable {rules : Ruleset}

/-- With rules whose redirections have groups, whatever is wrong with a link stays with it. -/
theorem cleanLink_of_targets (targets : rules.HasTargets) (s : Sanitizer) (link : Text) :
    cleanLink s rules link = .ok (.alone s rules link) := by
  rw [cleanLink, LinkResult.alone]
  rcases h : s.sanitize link rules with f | c
  · dsimp only
    rcases except_bind_error.mp h with h | ⟨_, _, h⟩
    · rcases Sanitizer.resolve_fault targets h with ⟨_, _, rfl, _⟩ | ⟨_, rfl⟩ <;> rfl
    · cases h
  · rfl

theorem cleanLinks_of_targets (targets : rules.HasTargets) (s : Sanitizer) (found : List Text) :
    cleanLinks s rules found = .ok (found.map (.alone s rules)) :=
  except_mapM_ok.mpr (List.forall₂_map_right_iff.mpr
    (List.forall₂_same.mpr fun link _ => cleanLink_of_targets targets s link))

/-- Links are cleaned one after the other. -/
theorem cleanLinks_append (s : Sanitizer) (rules : Ruleset) (found more : List Text) :
    cleanLinks s rules (found ++ more) = (do
      let first ← cleanLinks s rules found
      let others ← cleanLinks s rules more
      return first ++ others) := List.mapM_append

end Message

/-- What is told of a link is what comes of the link alone: the result, or the fault by its name and message, and then
the link is to be shown as it is. -/
structure LinkResult.Tells (s : Sanitizer) (rules : Ruleset) (link : Text) (r : LinkResult) : Prop where
  same : r.link = link
  result : r.result = s.sanitize link rules
  cleaned : ∀ c, s.sanitize link rules = .ok c → r.error? = none ∧ r.finalUrl = c.url
  failed : ∀ f, s.sanitize link rules = .error f → r.error? = some (f.name ++ ": " ++ f.message) ∧ r.finalUrl = link

theorem LinkResult.alone_tells (s : Sanitizer) (rules : Ruleset) (link : Text) :
    (alone s rules link).Tells s rules link := by
  refine ⟨rfl, rfl, fun c hc => ?_, fun f hf => ?_⟩
  · simp only [alone, error?, finalUrl, hc, and_self]
  · simp only [alone, error?, finalUrl, hf, CleanFault.report, and_self]

/-! ## Messages -/

namespace Store

variable (st : Store) (s : Sanitizer)

/-- The store asked for rules, and the asking counted. -/
def counted : ExceptT Fault (StateM (State × Nat)) Ruleset := fun (state, n) =>
  ((st.get state).1.map (·.rules), (st.get state).2, n + 1)

/-- A message without a link asks for nothing, and any other asks once. -/
theorem clean_counted (message : Text) (state : State) (n : Nat) :
    Message.clean st.counted s message (state, n) =
      ((Message.clean (Edition.rules <$> st.get) s message state).1,
        (Message.clean (Edition.rules <$> st.get) s message state).2, n + if links message = [] then 0 else 1) := by
  rw [Message.clean, Message.clean]
  cases links message with
  | nil => rfl
  | cons link rest =>
    rw [if_neg (List.cons_ne_nil link rest)]
    dsimp only
    rw [bind_run, bind_run, map_eq_pure_bind, bind_run, counted]
    rcases st.get state with ⟨_ | _, _⟩ <;> rfl

/-- The store is asked for rules if there is a link, and then the links are cleaned. -/
theorem cleanMessage_run (message : Text) (state : State) :
    st.cleanMessage s message state =
      if links message = [] then (.ok [], state)
      else ((st.get state).1 >>= fun e => (Message.cleanLinks s e.rules (links message)).mapError .clean,
        (st.get state).2) := by
  rw [cleanMessage, bind_run, Message.clean]
  cases links message with
  | nil => rfl
  | cons link rest =>
    rw [if_neg (List.cons_ne_nil link rest)]
    dsimp only
    rw [bind_run, map_eq_pure_bind, bind_run]
    rcases st.get state with ⟨_ | _, _⟩ <;> rfl

theorem cleanMessage_outcome (message : Text) (state : State) :
    (st.cleanMessage s message state).1 =
      if links message = [] then .ok []
      else (st.get state).1 >>= fun e => (Message.cleanLinks s e.rules (links message)).mapError .clean := by
  rw [cleanMessage_run, apply_ite Prod.fst]

variable {st s} {message : Text} {state : State}

/-- With rules to hand out, they are what the links are cleaned by, if there are any. -/
theorem cleanMessage_of_ok {e : Edition} (h : (st.get state).1 = .ok e) :
    (st.cleanMessage s message state).1 = (Message.cleanLinks s e.rules (links message)).mapError .clean := by
  rw [cleanMessage_outcome, h]
  split
  · rename_i none
    rw [none]
    rfl
  · rfl

/-- There is then an entry for each link, in their order. -/
theorem cleanMessage_entries {e : Edition} (known : state.Learned) (h : (st.get state).1 = .ok e) :
    (st.cleanMessage s message state).1 = .ok ((links message).map (.alone s e.rules)) := by
  rw [cleanMessage_of_ok h, Message.cleanLinks_of_targets (get_hasTargets known h), ok_mapError]

/-- A message is not cleaned exactly if it has a link and there are no rules. -/
theorem cleanMessage_fault (st : Store) (s : Sanitizer) (known : state.Learned) {f : Fault} :
    (st.cleanMessage s message state).1 = .error f ↔ links message ≠ [] ∧ (st.get state).1 = .error f := by
  constructor
  · intro h
    rcases hg : (st.get state).1 with g | e
    · rw [cleanMessage_outcome, hg] at h
      split at h <;> cases h
      exact ⟨‹_›, rfl⟩
    · rw [cleanMessage_entries known hg] at h
      cases h
  · rintro ⟨linked, hg⟩
    rw [cleanMessage_outcome, if_neg linked, hg]
    rfl

/-- The texts before and after a separator are cleaned as they would be alone, by the same rules. -/
theorem cleanMessage_append {c : Char} (hc : Message.isSeparator c = true) (a b : Text) :
    (st.cleanMessage s (a ++ c :: b) state).1 = (do
      let first ← (st.cleanMessage s a state).1
      let others ← (st.cleanMessage s b state).1
      return first ++ others) := by
  have cut : links (a ++ c :: b) = links a ++ links b := Message.links_append_cons hc a b
  rcases h : (st.get state).1 with f | e
  · rw [cleanMessage_outcome, cleanMessage_outcome, cleanMessage_outcome, h, cut]
    rcases links a with _ | _ <;> rcases links b with _ | _ <;> rfl
  · rw [cleanMessage_of_ok h, cleanMessage_of_ok h, cleanMessage_of_ok h, cut, Message.cleanLinks_append]
    rcases Message.cleanLinks s e.rules (links a) with _ | _
    · rfl
    · rcases Message.cleanLinks s e.rules (links b) with _ | _ <;> rfl

/-- What a store fails with is no fault of a URL. -/
theorem get_ne_clean (f : CleanFault) : (st.get state).1 ≠ .error (.clean f) := by
  intro h
  cases get_escapes_iff.mp ⟨h, rfl⟩

/-- How a store cleans a message in a state, each link on its own. -/
structure CleansApart (st : Store) (s : Sanitizer) (state : State) (message : Text) : Prop where
  /-- Without a link nothing comes of it, and nothing happens. -/
  unlinked : links message = [] → st.cleanMessage s message state = (.ok [], state)
  /-- With one, all that happens is that the store is asked for rules. -/
  linked : links message ≠ [] → (st.cleanMessage s message state).2 = (st.get state).2
  /-- It is asked once if there is a link, and never otherwise. -/
  counted : ∀ n, Message.clean st.counted s message (state, n) =
    ((Message.clean (Edition.rules <$> st.get) s message state).1,
      (Message.clean (Edition.rules <$> st.get) s message state).2, n + if links message = [] then 0 else 1)
  /-- With rules to hand out, there is an entry for each link, in their order and with repetitions. -/
  entries : ∀ e, (st.get state).1 = .ok e → ∃ results, (st.cleanMessage s message state).1 = .ok results ∧
    List.Forall₂ (fun link r => LinkResult.Tells s e.rules link r) (links message) results
  /-- The message is not cleaned exactly if it has a link and there are no rules. -/
  refused : ∀ f, (st.cleanMessage s message state).1 = .error f ↔ links message ≠ [] ∧ (st.get state).1 = .error f
  /-- No fault of a link escapes. -/
  kept : ∀ f, (st.cleanMessage s message state).1 ≠ .error (.clean f)

theorem cleansApart (st : Store) (s : Sanitizer) {state : State} (known : state.Learned) (message : Text) :
    st.CleansApart s state message where
  unlinked none := by rw [cleanMessage_run, if_pos none]
  linked some := by rw [cleanMessage_run, if_neg some]
  counted n := st.clean_counted s message state n
  entries e h := ⟨_, cleanMessage_entries known h, List.forall₂_map_right_iff.mpr
    (List.forall₂_same.mpr fun link _ => LinkResult.alone_tells s e.rules link)⟩
  refused _ := st.cleanMessage_fault s known
  kept f h := get_ne_clean f ((st.cleanMessage_fault s known).mp h).2

/-- Whatever happened to a store since it was made, and whatever the message: it is asked for rules once if there is a
link and never otherwise, and with these rules each link is cleaned on its own. In the order of the links, and as often
as they come, the entries tell the result of each or its fault, and a link with a fault is to be shown as it is. The
store may have no rules, but no fault of a link escapes. So what comes of two texts with a separator between them is
what comes of the first and then what comes of the second. -/
theorem links_cleaned_apart (st : Store) (s : Sanitizer) {first : State} (unasked : first.memory.latest = none)
    (steps : List Step) :
    (∀ message, st.CleansApart s (st.run steps first).2 message) ∧
      ∀ (a b : Text) (c : Char), Message.isSeparator c = true →
        (st.cleanMessage s (a ++ c :: b) (st.run steps first).2).1 = (do
          let before ← (st.cleanMessage s a (st.run steps first).2).1
          let after ← (st.cleanMessage s b (st.run steps first).2).1
          return before ++ after) :=
  ⟨st.cleansApart s (st.run_learned steps (State.learned_of_none unasked)), fun a b _ hc => cleanMessage_append hc a b⟩

/-- The rules for links that lead out of a mailbox. -/
def mailRules : Ruleset :=
  ⟨[{ Provider.concerning "mail" "//" with redirections := [⟨"mail#0".toList, .ofSource "to=([^&]*)"⟩] }]⟩

/-- A cache just written that has them. -/
def mailed : State :=
  ⟨{ World.start 0 .silent with shelf := ⟨.file (Bytes.Utf8.encode Sanitizer.mailbox) 0, [], []⟩ }, .fresh⟩

/-- Half a minute after the rules were read, a link is cleaned twice although another between the two fails. -/
theorem mailed_cleaned_apart :
    let steps := [.get .nothing, .change (.advance 30)]
    let state := (dated.run steps mailed).2
    let shop := "https://mail.example/out?to=http%3A%2F%2Fshop".toList
    let rest := Sanitizer.brokenTarget ++ '\n' :: shop
    let message := shop ++ ' ' :: rest
    mailed.memory.latest = none ∧ Message.isSeparator ' ' = true ∧
      links message = [shop, Sanitizer.brokenTarget, shop] ∧ (dated.get state).1 = .ok ⟨0, mailRules⟩ ∧
      (∃ results, (dated.cleanMessage .standard message state).1 = .ok results ∧
        results.map (·.link) = [shop, Sanitizer.brokenTarget, shop] ∧
        results.map (·.finalUrl) = ["http://shop".toList, Sanitizer.brokenTarget, "http://shop".toList]) ∧
      (Message.clean dated.counted .standard message (state, 0)).2.2 = 1 ∧
      (dated.cleanMessage .standard message state).1 = (do
        let before ← (dated.cleanMessage .standard shop state).1
        let after ← (dated.cleanMessage .standard rest state).1
        return before ++ after) := by
  intro steps state shop rest message
  have unasked : mailed.memory.latest = none := rfl
  have found : links message = [shop, Sanitizer.brokenTarget, shop] := by decide +kernel
  obtain ⟨apart, append⟩ := links_cleaned_apart dated .standard unasked steps
  have handed : (dated.get state).1 = .ok ⟨0, mailRules⟩ := by decide +kernel
  have cleaned : Sanitizer.standard.sanitize shop mailRules =
    .ok ⟨.cleaned, shop, "http://shop".toList, ["mail".toList, "mail".toList]⟩ := by decide +kernel
  have failed : Sanitizer.standard.sanitize Sanitizer.brokenTarget mailRules =
    .error (.invalidUrl "http://[shop".toList (.unreadable .unmatchedBracket)) := by decide +kernel
  obtain ⟨results, hr, each⟩ := (apart message).entries _ handed
  rw [found] at each
  obtain _ | ⟨t₁, _ | ⟨t₂, _ | ⟨t₃, ⟨⟩⟩⟩⟩ := each
  refine ⟨unasked, rfl, found, handed, ⟨_, hr, ?_, ?_⟩, ?_, append shop _ ' ' rfl⟩
  · simp only [List.map_cons, List.map_nil, t₁.same, t₂.same, t₃.same]
  · simp only [List.map_cons, List.map_nil, (t₁.cleaned _ cleaned).2, (t₂.failed _ failed).2, (t₃.cleaned _ cleaned).2]
  · rw [(apart message).counted 0, found]
    rfl

end Store
end Untrack
