/-
  Untrack.Proofs.Url.Reading — what taking a URL apart comes to. A well-formed URL is one that reads, without the
  characters that do not count, as a scheme, an authority and a rest (`Reads`), and its other parts are cut from the
  rest (`wellFormed_iff`).
-/

import Untrack.Proofs.Except
import Untrack.Proofs.Text.Cuts
import Untrack.Proofs.Url.Scheme
import Untrack.Query

namespace Untrack.Url

variable {url scheme authority rest : Text} {p : Parts}

/-! ## Scheme and authority -/

theorem splitScheme_append_cons (h : isScheme scheme = true) (rest : Text) :
    splitScheme (scheme ++ ':' :: rest) = (scheme.map Char.toLower, rest) := by
  obtain ⟨c, r, hs, -, hall⟩ := isScheme_cons h
  have colon : ':' ∉ scheme := fun hm => ne_of_isSchemeChar (hall _ hm) (by decide) rfl
  unfold splitScheme
  rw [Text.after?_append_cons colon, Text.before_append_cons colon]
  simp only [h, if_true]

theorem splitScheme_eq {t : Text} (h : (splitScheme t).1 ≠ []) :
    ∃ scheme rest, t = scheme ++ ':' :: rest ∧ isScheme scheme = true ∧
      splitScheme t = (scheme.map Char.toLower, rest) := by
  unfold splitScheme at h ⊢
  split
  · rename_i rest hr
    split
    · exact ⟨_, rest, Text.before_append_after? hr, ‹_›, rfl⟩
    · rename_i hs
      simp [hr, hs] at h
  · rename_i hr
    simp [hr] at h

theorem splitAuthority_append (inside : ∀ c ∈ authority, endsAuthority c = false)
    (stop : ∀ c, rest.head? = some c → endsAuthority c = true) :
    splitAuthority ('/' :: '/' :: (authority ++ rest)) = (authority, rest) := by
  have inside : ∀ c ∈ authority, (!endsAuthority c) = true := fun c hc => by rw [inside c hc]; rfl
  show ((authority ++ rest).takeWhile (!endsAuthority ·), (authority ++ rest).dropWhile (!endsAuthority ·)) = _
  rw [List.takeWhile_append_of_pos inside, List.dropWhile_append_of_pos inside]
  cases rest with
  | nil => simp
  | cons c r => simp [stop c rfl]

theorem splitAuthority_eq {t : Text} (h : (splitAuthority t).1 ≠ []) :
    ∃ r, t = '/' :: '/' :: r ∧ splitAuthority t = (r.takeWhile (!endsAuthority ·), r.dropWhile (!endsAuthority ·)) := by
  unfold splitAuthority at h ⊢
  split
  · exact ⟨_, rfl, rfl⟩
  · rename_i hn
    split at h
    · exact absurd rfl (hn _)
    · exact absurd rfl h

/-! ## All parts -/

/-- What taking a URL apart comes to. -/
theorem split_ok {u : Text} {p : Parts} (h : split u = .ok p) :
    let s := splitScheme (cleaned u)
    let a := splitAuthority s.2
    checkAuthority a.1 = .ok () ∧ checkHidden a.1 = .ok () ∧
      p = ⟨s.1, a.1, (a.2.before '#').before '?', ((a.2.before '#').after? '?').getD [], (a.2.after? '#').getD []⟩ := by
  unfold split at h
  obtain ⟨_, hb, h⟩ := except_bind_ok.mp h
  obtain ⟨_, hh, h⟩ := except_bind_ok.mp h
  cases h
  exact ⟨hb, hh, rfl⟩

theorem wellFormed_ok {u : Text} {p : Parts} :
    wellFormed u = .ok p ↔ split u = .ok p ∧ p.scheme ≠ [] ∧ p.authority ≠ [] := by
  unfold wellFormed
  rw [except_bind_ok]
  constructor
  · rintro ⟨q, hq, h⟩
    split at h
    · cases h
    · rename_i hn
      cases h
      simp only [Bool.or_eq_true, List.isEmpty_iff, not_or] at hn
      exact ⟨mapError_ok.mp hq, hn⟩
  · rintro ⟨h, hs, ha⟩
    refine ⟨p, mapError_ok.mpr h, ?_⟩
    rw [if_neg (by simp [hs, ha])]
    rfl

/-- The URL can be taken apart and has a scheme and a host. -/
def HasHost (url : Text) : Prop := ∃ parts, wellFormed url = .ok parts

theorem hasHost_iff : HasHost url ↔ ∃ parts, split url = .ok parts ∧ parts.scheme ≠ [] ∧ parts.authority ≠ [] :=
  exists_congr fun _ => wellFormed_ok

/-- Without the characters that do not count, a URL is a scheme, an authority that stands the checks, and a rest that
is empty or starts with a delimiter. -/
structure Reads (url scheme authority rest : Text) : Prop where
  text : cleaned url = scheme ++ ':' :: '/' :: '/' :: (authority ++ rest)
  scheme : isScheme scheme = true
  host : authority ≠ []
  inside : ∀ c ∈ authority, endsAuthority c = false
  stop : ∀ c, rest.head? = some c → endsAuthority c = true
  brackets : checkAuthority authority = .ok ()
  shown : checkHidden authority = .ok ()

/-- The parts of a URL that reads so. -/
def Parts.ofRest (scheme authority rest : Text) : Parts where
  scheme := scheme.map Char.toLower
  authority := authority
  path := (rest.before '#').before '?'
  query := ((rest.before '#').after? '?').getD []
  fragment := (rest.after? '#').getD []

theorem wellFormed_iff : wellFormed url = .ok p ↔
    ∃ scheme authority rest, Reads url scheme authority rest ∧ p = .ofRest scheme authority rest := by
  rw [wellFormed_ok]
  constructor
  · rintro ⟨h, hs, ha⟩
    obtain ⟨brackets, shown, rfl⟩ := split_ok h
    obtain ⟨scheme, rest, text, isScheme, split⟩ := splitScheme_eq hs
    simp only [split] at ha brackets shown ⊢
    obtain ⟨r, rfl, hr⟩ := splitAuthority_eq ha
    simp only [hr] at ha brackets shown ⊢
    refine ⟨scheme, _, _, ⟨?_, isScheme, ha, fun c hc => ?_, fun c hc => ?_, brackets, shown⟩, rfl⟩
    · rw [text, List.takeWhile_append_dropWhile]
    · simpa using List.mem_takeWhile_imp hc
    · have := List.head?_dropWhile_not (!endsAuthority ·) r
      rw [hc] at this
      simpa using this
  · rintro ⟨scheme, authority, rest, reads, rfl⟩
    obtain ⟨c, r, rfl, -, -⟩ := isScheme_cons reads.scheme
    refine ⟨?_, by simp [Parts.ofRest], reads.host⟩
    unfold split
    rw [reads.text, splitScheme_append_cons reads.scheme]
    dsimp only
    rw [splitAuthority_append reads.inside reads.stop]
    dsimp only
    rw [reads.brackets]
    show (checkHidden authority >>= fun _ => pure _ : Except Fault Parts) = _
    rw [reads.shown]
    rfl

end Untrack.Url
