/-
  Untrack.Proofs.World.Cache — a document kept in the cache and read from it. Keeping it either fails and changes
  nothing, or puts it at the cache's path, where no folder stands (`writeText_cases`); reading gives what the file
  at the path holds, and changes nothing (`document_cases`).
-/

import Untrack.Cache.Document
import Untrack.Proofs.Except
import Untrack.Proofs.World.Job
import Untrack.Ruleset.Document

namespace Untrack

/-- The cache is a file with a document that has these rules. -/
def Cache.Shelf.Holds (s : Shelf) (rules : Ruleset) : Prop :=
  ∃ content modified document, s.spot = .file content modified ∧ Bytes.Utf8.decode content = .ok document ∧
    Ruleset.ofText document = .ok rules

/-- The world with a document just written to the cache. -/
def World.keeping (document : Text) (w : World) : World :=
  { w with shelf := w.shelf.put (.file (Bytes.Utf8.encode document) w.now) }

theorem Cache.Shelf.noFolder_of_write_ok {l : Location} {now : Int} {content : Bytes} {s : Shelf}
    (h : (s.write l now content).1 = .ok ()) (t : Int) : s.spot ≠ .folder t := by
  intro hs
  simp [Shelf.write, Shelf.publish, Shelf.addDraft, hs] at h

theorem Cache.writeText_cases (l : Location) (document : Text) (w : World) :
    (∃ f, Cache.writeText l document w = (.error f, w)) ∨
      (∀ t, w.shelf.spot ≠ .folder t) ∧ Cache.writeText l document w = (.ok (), w.keeping document) := by
  have step : Cache.writeText l document w =
      (((w.shelf.write l w.now (Bytes.Utf8.encode document)).1).mapError fun f => .fetch (.unwritable l.path f),
        { w with shelf := (w.shelf.write l w.now (Bytes.Utf8.encode document)).2 }) := rfl
  rcases h : (w.shelf.write l w.now (Bytes.Utf8.encode document)).1 with f | ⟨⟩
  · refine Or.inl ⟨.fetch (.unwritable l.path f), ?_⟩
    rw [step, h, Shelf.write_error h]
    rfl
  · refine Or.inr ⟨Shelf.noFolder_of_write_ok h, ?_⟩
    rw [step, h, Shelf.write_ok h]
    rfl

theorem Cache.readText_run (l : Location) (w : World) :
    Cache.readText l w = (((w.shelf.read l).mapError Fault.cache).bind fun content =>
      (Bytes.Utf8.decode content).mapError .cacheNotUtf8, w) := by
  rw [Cache.readText, bind_run, Act.ofShelf_run]
  rcases w.shelf.read l with _ | _ <;> rfl

theorem Cache.Shelf.read_ok {l : Location} {s : Shelf} {content : Bytes} (h : s.read l = .ok content) :
    ∃ modified, s.spot = .file content modified := by
  unfold Shelf.read at h
  split at h <;> cases h
  exact ⟨_, ‹_›⟩

/-- A document read from the cache is what the file at the path holds. -/
theorem Cache.document_cases (l : Location) (w : World) :
    (∃ f, Cache.document l w = (.error f, w)) ∨
      ∃ content modified document, w.shelf.spot = .file content modified ∧
        Bytes.Utf8.decode content = .ok document ∧ Cache.document l w = (.ok document, w) := by
  rw [Cache.document, adapt_run, Cache.readText_run]
  rcases hc : w.shelf.read l with f | content
  · exact Or.inl ⟨_, rfl⟩
  rcases hd : Bytes.Utf8.decode content with f | document
  · refine Or.inl ⟨Fault.whenReading l.path (.cacheNotUtf8 f), ?_⟩
    simp only [ok_mapError, error_mapError, Except.bind, hd]
  · obtain ⟨t, hs⟩ := Shelf.read_ok hc
    refine Or.inr ⟨content, t, document, hs, hd, ?_⟩
    simp only [ok_mapError, Except.bind, hd]

end Untrack
