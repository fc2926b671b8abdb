/-
  Untrack.Proofs.Command.Ending — how the command ends when it is given texts only, none of them an option. The words
  are read back as these texts (`ofArguments_of_texts`), so a run (`clean_run`) is the cleaning of one message, made of
  the texts line by line (`run_of_texts`). A message is cleaned unless it has a link and the store has no rules
  (`Store.cleanMessage_fault`), so what is left to end the command otherwise than with code 0 or 1 is what escapes the
  store (`ends_or_escapes`).

  Something does escape although no document runs into a limit: a cache that cannot be opened is told of as a fault of
  fetching, but one that is no UTF-8 is not (`an_unreadable_cache_escapes`).
-/

import Untrack.Command.Basic
import Untrack.Proofs.Store.Messages

namespace Untrack

namespace Command

/-! ## Texts as arguments -/

variable {arguments : List Text}

theorem wordOf_of_text {t : Text} (h : t.head? ≠ some '-') : wordOf t = .ok (.text t) := by
  unfold wordOf
  split
  · exact absurd rfl h
  · exact absurd rfl h
  · rfl

theorem words_of_texts (h : ∀ a ∈ arguments, a.head? ≠ some '-') : words arguments = .ok (arguments.map .text) := by
  induction arguments with
  | nil => rfl
  | cons a rest ih =>
    obtain ⟨first, others⟩ := List.forall_mem_cons.mp h
    have no_divider : a ≠ ['-', '-'] := fun e => first (by rw [e]; rfl)
    rw [words, if_neg no_divider, wordOf_of_text first, ih others]
    rfl

/-- Texts only add to the run that is under way. -/
theorem readWords_texts (r : Reading) (run texts : List Text) :
    readWords r run (texts.map .text) = readWords r (run ++ texts) [] := by
  induction texts generalizing run with
  | nil => rw [List.append_nil]; rfl
  | cons t texts ih =>
    show readWords r (run ++ [t]) (texts.map .text) = _
    rw [ih, List.append_assoc, List.singleton_append]

/-- Texts that are no options are taken as they are, whether a refresh was asked for before them or not. -/
theorem readWords_of_texts (refresh : Bool) (h : ∀ a ∈ arguments, a.head? ≠ some '-') :
    readWords ⟨none, refresh, []⟩ [] (arguments.map .text) = .ok (.clean refresh arguments) := by
  have no_divider : ['-', '-'] ∉ arguments := fun hm => h _ hm rfl
  rw [readWords_texts, List.nil_append, readWords]
  cases arguments with
  | nil => rfl
  | cons a rest =>
    simp only [List.isEmpty_cons, Bool.false_eq_true, if_false, Reading.takeRun, List.erase_of_not_mem no_divider]
    rfl

theorem ofArguments_of_texts (h : ∀ a ∈ arguments, a.head? ≠ some '-') :
    Request.ofArguments arguments = .ok (.clean false arguments) := by
  rw [Request.ofArguments, words_of_texts h]
  exact readWords_of_texts false h

theorem ofArguments_refresh (h : ∀ a ∈ arguments, a.head? ≠ some '-') :
    Request.ofArguments ("--refresh".toList :: arguments) = .ok (.clean true arguments) := by
  have flag : wordOf "--refresh".toList = .ok (.flag .refresh) := by decide
  have others : "--refresh".toList ≠ ['-', '-'] := by decide
  rw [Request.ofArguments, words, if_neg others, flag, words_of_texts h]
  exact readWords_of_texts true h

/-! ## The run -/

theorem failed_run (printed : String) (f : Fault) (state : State) :
    failed printed f state =
      (if f.isOfRules then .ok ⟨1, printed, "error: " ++ f.message ++ "\n"⟩ else .error f, state) := by
  unfold failed
  cases f.isOfRules <;> rfl

/-- What the command ends with: a fault of the refresh, one of the cleaning, or what it has to print. -/
theorem clean_run (st : Store) (s : Sanitizer) (refresh : Bool) (texts : List Text) (state : State) :
    clean st s refresh texts state =
      match refreshFirst st.refresher refresh state.world with
      | (.error f, between) => failed "" f { state with world := between }
      | (.ok told, between) =>
        match st.cleanMessage s (['\n'].intercalate texts) { state with world := between } with
        | (.error f, after) => failed told f after
        | (.ok results, after) => (.ok ⟨0, told ++ lines results, ""⟩, after) := by
  have refreshed : (observe (Job.ofAct (refreshFirst st.refresher refresh)) : Job _) state =
      (.ok (refreshFirst st.refresher refresh state.world).1,
        { state with world := (refreshFirst st.refresher refresh state.world).2 }) := rfl
  rw [clean, bind_of_ok refreshed]
  rcases refreshFirst st.refresher refresh state.world with ⟨f | told, between⟩
  · rfl
  dsimp only
  have observed : (observe (st.cleanMessage s (['\n'].intercalate texts)) : Job _) { state with world := between } =
      (.ok (st.cleanMessage s (['\n'].intercalate texts) { state with world := between }).1,
        (st.cleanMessage s (['\n'].intercalate texts) { state with world := between }).2) := rfl
  rw [bind_of_ok observed]
  rcases st.cleanMessage s (['\n'].intercalate texts) { state with world := between } with ⟨f | results, after⟩ <;> rfl

/-- Given texts, the command cleans the message that they make up, line by line. -/
theorem run_of_texts (st : Store) (s : Sanitizer) (h : ∀ a ∈ arguments, a.head? ≠ some '-') (state : State) :
    (Command.run st s arguments state).1 =
      match (st.cleanMessage s (['\n'].intercalate arguments) state).1 with
      | .ok results => .ok ⟨0, lines results, ""⟩
      | .error f => if f.isOfRules then .ok ⟨1, "", "error: " ++ f.message ++ "\n"⟩ else .error f := by
  have no_refresh : refreshFirst st.refresher false state.world = (.ok "", state.world) := rfl
  rw [Command.run, ofArguments_of_texts h]
  dsimp only
  rw [clean_run, no_refresh]
  dsimp only
  rcases st.cleanMessage s (['\n'].intercalate arguments) state with ⟨f | results, after⟩
  · dsimp only
    rw [failed_run]
  · dsimp only
    rw [String.empty_append]

/-- Whatever the state, a store that is asked for rules fails with a fault of fetching or of the rules, or with one that
escapes, and those are told in advance. So the command, given texts that are no options, ends with code 0 or 1, or a
link is among the texts and what escapes the store escapes the command. -/
theorem ends_or_escapes (st : Store) (state : State) :
    (∀ f, (st.get state).1 = .error f ∧ f.isOfRules = false ↔ st.Escapes state f) ∧
      ∀ (s : Sanitizer) (arguments : List Text), (∀ a ∈ arguments, a.head? ≠ some '-') → state.memory = .fresh →
        (∀ report, (Command.run st s arguments state).1 = .ok report → report.code = 0 ∨ report.code = 1) ∧
          ∀ f, (Command.run st s arguments state).1 = .error f ↔
            Message.links (['\n'].intercalate arguments) ≠ [] ∧ st.Escapes state f := by
  refine ⟨fun f => Store.get_escapes_iff, fun s arguments texts new => ?_⟩
  rw [run_of_texts st s texts]
  refine ⟨fun report h => ?_, fun f => ?_⟩
  · split at h
    · cases h
      exact Or.inl rfl
    · split at h <;> cases h
      exact Or.inr rfl
  · rw [← Store.get_escapes_iff, ← and_assoc, ← st.cleanMessage_fault s (State.learned_of_none (by rw [new]; rfl))]
    rcases (st.cleanMessage s (['\n'].intercalate arguments) state).1 with g | results
    · dsimp only
      cases hg : g.isOfRules with
      | true =>
        refine ⟨(fun h => nomatch h), ?_⟩
        rintro ⟨⟨⟩, unforeseen⟩
        rw [hg] at unforeseen
        cases unforeseen
      | false =>
        refine ⟨fun h => ?_, fun h => ?_⟩
        · cases h
          exact ⟨rfl, hg⟩
        · cases h.1
          rfl
    · exact ⟨(fun h => nomatch h), fun h => nomatch h.1⟩

/-- A cache just written that is no UTF-8, and a server with nothing to say. -/
def unreadable : State := ⟨{ World.start 0 .silent with shelf := ⟨.file [0xFF] 0, [], []⟩ }, .fresh⟩

/-- The same without a cache. -/
def cacheless : State := ⟨.start 0 .silent, .fresh⟩

/-- The folder of the cache is a file. -/
def misplaced : State := ⟨{ World.start 0 .silent with shelf := ⟨.blocked, [], []⟩ }, .fresh⟩

/-- A link is enough for what escapes the store to escape the command. Without a cache the command ends. -/
theorem unreadable_escapes :
    let link := ["http://shop.example".toList]
    (∀ a ∈ link, a.head? ≠ some '-') ∧
      (Command.run .dated .standard link unreadable).1 = .error (.cacheNotUtf8 ⟨.utf8, 0xFF, 0, 1, .badStart⟩) ∧
      (Command.run .dated .standard link misplaced).1 = .error (.cache (.throughFile "cache/rules".toList)) ∧
      ∃ report, (Command.run .dated .standard link cacheless).1 = .ok report ∧ (report.code = 0 ∨ report.code = 1) ∧
        report.errors = "error: GET http://host/rules returned HTTP 404\n" := by
  intro link
  have texts : ∀ a ∈ link, a.head? ≠ some '-' := by decide
  have linked : Message.links (['\n'].intercalate link) ≠ [] := by decide
  have undecodable : Store.Escapes .dated unreadable (.cacheNotUtf8 ⟨.utf8, 0xFF, 0, 1, .badStart⟩) :=
    .notUtf8 rfl ⟨0, rfl, by decide⟩ rfl (by decide)
  have ends : (Command.run .dated .standard link cacheless).1 =
      .ok ⟨1, "", "error: GET http://host/rules returned HTTP 404\n"⟩ := by decide +kernel
  refine ⟨texts, ?_, ?_, _, ends, ((ends_or_escapes .dated cacheless).2 .standard link texts rfl).1 _ ends, rfl⟩
  · exact (((ends_or_escapes .dated unreadable).2 .standard link texts rfl).2 _).mpr ⟨linked, undecodable⟩
  · exact (((ends_or_escapes .dated misplaced).2 .standard link texts rfl).2 _).mpr ⟨linked, .pathBlocked rfl⟩

/-- A store fails with a fault that is not foreseen, although no document runs into a limit. -/
theorem an_unreadable_cache_escapes :
    ¬ ∀ (st : Store) (state : State) (f : Fault), (∀ g, f = .rules g → g.isReported = true) →
      (st.get state).1 = .error f → f.isOfRules = true := by
  intro foreseen
  have failed : (Store.dated.get unreadable).1 = .error (.cacheNotUtf8 ⟨.utf8, 0xFF, 0, 1, .badStart⟩) := by
    decide +kernel
  have of_rules := foreseen Store.dated unreadable _ (fun _ e => Fault.noConfusion e) failed
  cases of_rules

end Command
end Untrack
