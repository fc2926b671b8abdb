/-
  Untrack.Proofs.Store.Provenance — nothing gets into the cache unchecked (`cache_is_published`). Of a store that
  began with nothing, whatever it was asked to do and whatever the server answered, every file that ever stood at the
  cache's path is to the byte a response with rules that can be read, and if the source is verified the response that
  followed it was its hash (`Source.Published`). Time may go by and the cache may be touched, deleted or blocked, as
  long as nobody but the store writes it.

  The invariant is `World.Sourced`. Only a download and a round of the refresh loop bring new content to the path, both
  a document just checked; all else leaves there what was there before.
-/

import Untrack.Proofs.Store.Steps
import Untrack.Proofs.World.History
import Untrack.Proofs.World.Published

namespace Untrack

/-! ## The invariant -/

/-- Every file that stands or stood at the cache's path is published. -/
def World.Sourced (source : Source) (w : World) : Prop :=
  ∀ content t, .file content t ∈ w.shelf.history → source.Published w.exchanges content

namespace World.Sourced

variable {source : Source} {w w' : World}

theorem asked (h : w.Sourced source) (ask : w.Asked w') : w'.Sourced source := by
  intro content t hm
  rw [ask.shelf] at hm
  exact (h content t hm).mono ask.exchanges

/-- What comes to the path may be a file only with content that is published. -/
theorem put (h : w.Sourced source) {spot : Cache.Spot}
    (hs : ∀ content t, spot = .file content t → source.Published w.exchanges content) :
    ({ w with shelf := w.shelf.put spot } : World).Sourced source := by
  intro content t hm
  rcases List.mem_cons.mp hm with here | past
  · exact hs content t here.symm
  · exact h content t past

theorem keeping {document : Text} (h : w.Sourced source)
    (published : source.Published w.exchanges (Bytes.Utf8.encode document)) : (w.keeping document).Sourced source := by
  refine h.put fun content t hs => ?_
  cases hs
  exact published

end World.Sourced

/-- Unless another writes it, a file that a change leaves at the path has the content it had before. -/
theorem Change.spotAfter?_file {c : Change} {now t : Int} {spot : Cache.Spot} {content : Bytes}
    (hc : ∀ f, c ≠ .write f) (h : c.spotAfter? now spot = some (.file content t)) :
    ∃ t', spot = .file content t' := by
  unfold spotAfter? at h
  split at h <;> cases h
  · exact absurd rfl (hc _)
  · exact absurd rfl (hc _)
  · exact ⟨_, rfl⟩

theorem Change.sourced_apply {source : Source} {w : World} {c : Change} (hc : ∀ f, c ≠ .write f)
    (h : w.Sourced source) : (c.apply w).Sourced source := by
  unfold apply
  split
  · exact h
  · exact h
  · split
    · refine h.put fun content t hs => ?_
      subst hs
      obtain ⟨t', here⟩ := spotAfter?_file hc ‹_›
      exact h content t' (by rw [Cache.Shelf.history, here]; exact List.mem_cons_self)
    · exact h

/-- If all that stood at the path before is published, so is all that does after. -/
def State.KeepsSourced (source : Source) (s s' : State) : Prop := s.world.Sourced source → s'.world.Sourced source

instance isPreorder_keepsSourced (source : Source) : IsPreorder State (State.KeepsSourced source) where
  refl _ h := h
  trans _ _ _ h k hs := k (h hs)

/-! ## Jobs -/

namespace Store

variable {α : Type} {st : Store} {m : Meanwhile}

/-- What only asks the server brings nothing to the path. -/
theorem looks_sourced {source : Source} {t : Act α} (h : Within World.Asked t) :
    Within (World.Carries (State.KeepsSourced source)) t := fun w _ hs => hs.asked (h w)

theorem download_sourced (hm : m.writtenAfterWriting = none) :
    Within (State.KeepsSourced st.source) (st.download m) := by
  rw [download_eq]
  refine within_bind_of (within_lift (looks_sourced (Download.checked_asked _))) ?_
  rintro ⟨document, rules⟩ s s' h hs
  have adopted : (st.adopt m document rules s').2.world.Sourced st.source := by
    rcases st.adopt_cases hm document rules s' with ⟨f, ha⟩ | ⟨_, ha⟩ <;> rw [ha]
    · exact hs
    · exact hs.keeping (Download.checked_published (lift_ok h))
  exact adopted

theorem runOnce_sourced : Within (World.Carries (State.KeepsSourced st.source)) st.refresher.runOnce := by
  rw [Refresh.runOnce_eq]
  refine within_bind_of (looks_sourced (Download.checked_asked _)) ?_
  rintro ⟨document, rules⟩ w w' checked _ hs
  have kept : ((do
      Cache.writeText st.location document
      return ⟨rules.size, st.location.path⟩ : Act Refresh.Summary) w').2.Sourced st.source := by
    rw [bind_run]
    rcases Cache.writeText_cases st.location document w' with ⟨f, hw⟩ | ⟨_, hw⟩ <;> rw [hw]
    · exact hs
    · exact hs.keeping (Download.checked_published checked)
  exact kept

theorem recallOr_sourced (modified : Option Int) : Within (State.KeepsSourced st.source) (st.recallOr modified) := by
  have read : Within World.Asked (Cache.document st.location) := fun w => Act.asked_readText st.location w
  refine within_bind (fun _ hs => hs) fun memory => ?_
  split
  · exact within_pure _
  · refine within_bind (within_lift (looks_sourced read)) fun document => ?_
    exact within_bind (within_lift (looks_sourced (Ruleset.asked_parse document))) fun rules _ hs => hs

theorem getAmid_sourced (lock : m.writtenAtLock = none) (written : m.writtenAfterWriting = none) :
    Within (State.KeepsSourced st.source) (st.getAmid m) := by
  have asked : ∀ w w' : World, w.Asked w' → w.Carries (State.KeepsSourced st.source) w' := fun _ _ h _ hs => hs.asked h
  refine getAmid_within asked ?_ (download_sourced written) (load_within asked (download_sourced rfl) recallOr_sourced)
  rw [lock]
  exact fun _ _ hs => hs

/-! ## Runs -/

/-- Whether nobody but the store writes the cache in a step. -/
def Step.isAlone : Step → Bool
  | .get m => m.writtenAtLock.isNone && m.writtenAfterWriting.isNone
  | .put _ => false
  | .change (.write _) => false
  | _ => true

theorem take_sourced (st : Store) {step : Step} (alone : step.isAlone = true) :
    Within (State.KeepsSourced st.source) (st.take step) := by
  refine take_within st (fun _ _ h _ hs => hs.asked h) ?_ (download_sourced rfl) runOnce_sourced ?_ ?_
  · rintro m (rfl | rfl)
    · obtain ⟨lock, written⟩ := Bool.and_eq_true_iff.mp alone
      exact getAmid_sourced (Option.isNone_iff_eq_none.mp lock) (Option.isNone_iff_eq_none.mp written)
    · exact getAmid_sourced rfl rfl
  · rintro document rfl
    cases alone
  · rintro c rfl w _ hs
    refine Change.sourced_apply ?_ hs
    rintro f rfl
    cases alone

/-- However a store that began with nothing is used, and however the server answers: at every moment, a file at the
cache's path, now or before, is a response that the server gave to a request for the rules. It can be read, and if the
source is verified the request after it was for the hash, and the hash that came, stripped and in lower case, is the
file's. Only others who write the cache can bring anything else there. -/
theorem cache_is_published (st : Store) (now : Int) (server : Server) {steps : List Step}
    (alone : ∀ step ∈ steps, step.isAlone = true) :
    ∀ earlier, earlier <+: steps → ∀ content t,
      .file content t ∈ (st.run earlier (.start now server)).2.world.shelf.history →
      st.source.Published (st.run earlier (.start now server)).2.world.exchanges content := by
  intro earlier he
  have kept := st.run_within (fun step hs => st.take_sourced (alone step (he.subset hs))) (.start now server)
  refine kept fun content t hm => ?_
  rcases List.mem_cons.mp hm with here | past
  · cases here
  · cases past

/-- A store that checks what it downloads. -/
def wary : Store := ⟨⟨"http://host/rules".toList, "http://host/hash".toList, true⟩,
  ⟨"cache/rules".toList, "cache".toList⟩, .ofSeconds 60⟩

def bareRules : Bytes := Bytes.Utf8.encode "\x7b\"providers\":\x7b\x7d\x7d".toList

/-- The hash of the rules is published late, and then in capitals with white space around it. -/
def tardy : Server := ⟨[.reply 200 bareRules], [.reply 200 (Bytes.Utf8.encode "none yet".toList),
  .reply 200 (Bytes.Utf8.encode " 9AECF438C3F923CE02F488BE25CAE648068D632535D5EC4D38B0FA6ABB6B055F\n".toList)]⟩

/-- A round that fails and one that does not, and the cache deleted, downloaded again and touched. -/
def unattended : List Step :=
  [.runRounds 2, .change .delete, .get ⟨none, none, true⟩, .change (.advance 30), .change (.touch 5)]

theorem unattended_published :
    let w := (wary.run unattended (.start 10 tardy)).2.world
    (∀ step ∈ unattended, step.isAlone = true) ∧ .file bareRules 35 ∈ w.shelf.history ∧
      wary.source.Published w.exchanges bareRules := by
  intro w
  have alone : ∀ step ∈ unattended, step.isAlone = true := by decide
  have kept : .file bareRules 35 ∈ w.shelf.history := by decide +kernel
  exact ⟨alone, kept, cache_is_published wary 10 tardy alone unattended List.prefix_rfl bareRules 35 kept⟩

end Store
end Untrack
