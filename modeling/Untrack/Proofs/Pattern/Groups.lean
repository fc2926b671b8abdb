/-
  Untrack.Proofs.Pattern.Groups — a match has a text, or none, for each group of its pattern (`find?_groups`), so the
  first group of a pattern with groups can always be asked for (`group?_one`).

  Running a tree only ever moves the place and notes groups, whatever it tries and gives up in between. What both
  keep to, a relation of the track before to the track after, the run keeps to: if it reaches the end, it handed its
  goal a track so related to the first one (`Node.run_leads`). The number of groups is such a relation.
-/

import Mathlib.Order.Defs.Unbundled
import Untrack.Pattern.Basic

namespace Untrack.Pattern

/-- However it is started and whatever its goal: a run that reaches the end handed the goal a track so related to
the one it started on. -/
def Leads (R : Track → Track → Prop) (run : Track → Goal → Option Track) : Prop :=
  ∀ s k r, run s k = some r → ∃ e, R s e ∧ k e = some r

section Leads

variable {R : Track → Track → Prop} {body : Track → Goal → Option Track}

/-- A body run for itself alone, as lookarounds do. -/
theorem Leads.alone (h : Leads R body) {s e : Track} (hs : body s some = some e) : R s e := by
  obtain ⟨e', he, same⟩ := h s some e hs
  cases same
  exact he

variable [IsPreorder Track R]

/-- The goal at once. -/
theorem leads_at_once : Leads R fun s k => k s := fun s _ _ hr => ⟨s, refl_of R s, hr⟩

/-- One run after the other. -/
theorem Leads.andThen {after : Track → Goal → Option Track} (h : Leads R body) (ha : Leads R after) :
    Leads R fun s k => body s fun e => after e k := by
  intro s k r hr
  obtain ⟨m, hm, hr⟩ := h s _ r hr
  obtain ⟨e, he, hk⟩ := ha m k r hr
  exact ⟨e, trans_of R hm he, hk⟩

/-! ## Repetitions -/

theorem rounds_leads (h : Leads R body) (n : Nat) : Leads R (rounds body n) := by
  induction n with
  | zero => exact leads_at_once
  | succ n ih => exact h.andThen ih

/-- Further rounds: induction on their limit, for all counts left and all places of the round before. -/
theorem moreGreedy_leads (h : Leads R body) (limit : Nat) (most last : Option Nat) :
    Leads R (moreGreedy body limit most last) := by
  induction limit generalizing most last with
  | zero => exact leads_at_once
  | succ limit ih =>
    intro s k r hr
    unfold moreGreedy at hr
    split at hr
    · split at hr
      · cases hr
        exact h.andThen (ih _ _) s k r ‹_›
      · exact leads_at_once s k r hr
    · exact leads_at_once s k r hr

theorem moreLazy_leads (h : Leads R body) (limit : Nat) (most last : Option Nat) :
    Leads R (moreLazy body limit most last) := by
  induction limit generalizing most last with
  | zero => exact leads_at_once
  | succ limit ih =>
    intro s k r hr
    unfold moreLazy at hr
    split at hr
    · cases hr
      exact leads_at_once s k r ‹_›
    · split at hr
      · exact h.andThen (ih _ _) s k r hr
      · cases hr

theorem keptRounds_leads (h : Leads R body) {n : Nat} {s e : Track} (hs : keptRounds body n s = some e) : R s e := by
  induction n generalizing s with
  | zero => exact Option.some.inj hs ▸ refl_of R s
  | succ n ih =>
    obtain ⟨m, hm, hs⟩ := Option.bind_eq_some_iff.mp hs
    exact trans_of R (h.alone hm) (ih hs)

theorem morePossessive_leads (h : Leads R body) (limit : Nat) (most last : Option Nat) (s : Track) :
    R s (morePossessive body limit most last s) := by
  induction limit generalizing most last s with
  | zero => exact refl_of R s
  | succ limit ih =>
    unfold morePossessive
    split
    · split
      · exact trans_of R (h.alone ‹_›) (ih _ _ _)
      · exact refl_of R s
    · exact refl_of R s

/-! ## Trees -/

/-- Induction on the tree. -/
theorem Node.run_leads (moved : ∀ (s : Track) (place : Nat), R s { s with place })
    (noted : ∀ (s : Track) (index : Nat) (b : Bounds), R s (s.setGroup index b)) (text : Array Char) (n : Node) :
    Leads R (n.run text) := by
  induction n with
  | nothing => exact leads_at_once
  | letter t =>
    intro s k r hr
    simp only [run] at hr
    split at hr
    · split at hr
      · exact ⟨_, moved s _, hr⟩
      · cases hr
    · cases hr
  | anchor a =>
    intro s k r hr
    simp only [run] at hr
    split at hr
    · exact leads_at_once s k r hr
    · cases hr
  | next a b iha ihb => exact iha.andThen ihb
  | either a b iha ihb =>
    intro s k r hr
    simp only [run] at hr
    split at hr
    · cases hr
      exact iha s k r ‹_›
    · exact ihb s k r hr
  | group index body ih =>
    intro s k r hr
    obtain ⟨e, he, hk⟩ := ih s _ r hr
    exact ⟨_, trans_of R he (noted e index _), hk⟩
  | again appetite least most body ih =>
    cases appetite with
    | greedy => exact (rounds_leads ih least).andThen (moreGreedy_leads ih _ _ _)
    | lazy => exact (rounds_leads ih least).andThen (moreLazy_leads ih _ _ _)
    | possessive =>
      intro s k r hr
      simp only [run] at hr
      split at hr
      · exact ⟨_, trans_of R (keptRounds_leads ih ‹_›) (morePossessive_leads ih _ _ _ _), hr⟩
      · cases hr
  | same index folding =>
    intro s k r hr
    simp only [run] at hr
    split at hr
    · split at hr
      · exact ⟨_, moved s _, hr⟩
      · cases hr
    · cases hr
  | ahead wanted body ih =>
    intro s k r hr
    simp only [run] at hr
    split at hr
    · split at hr
      · exact ⟨_, trans_of R (ih.alone ‹_›) (moved _ _), hr⟩
      · cases hr
    · split at hr
      · cases hr
      · exact leads_at_once s k r hr
  | behind wanted width body ih =>
    intro s k r hr
    simp only [run] at hr
    split at hr
    · split at hr
      · cases hr
      · exact leads_at_once s k r hr
    · split at hr
      · split at hr
        · exact ⟨_, trans_of R (moved s _) (trans_of R (ih.alone ‹_›) (moved _ _)), hr⟩
        · cases hr
      · split at hr
        · cases hr
        · exact leads_at_once s k r hr
  | atomic body ih =>
    intro s k r hr
    simp only [run] at hr
    split at hr
    · exact ⟨_, ih.alone ‹_›, hr⟩
    · cases hr
  | ifGroup index yes no ihy ihn =>
    intro s k r hr
    simp only [run] at hr
    split at hr
    · exact ihy s k r hr
    · exact ihn s k r hr

end Leads

/-! ## Matches -/

/-- Both tracks have texts, or none, for as many groups. -/
def Track.SameGroups (s e : Track) : Prop := e.groups.length = s.groups.length

instance isPreorder_sameGroups : IsPreorder Track Track.SameGroups where
  refl _ := rfl
  trans _ _ _ h k := Eq.trans k h

variable {p : Pattern} {t : Text} {m : Match}

theorem matchAt_groups {text : Array Char} {moving : Bool} {start : Nat} (h : p.matchAt text moving start = some m) :
    m.groups.length = p.groups := by
  unfold matchAt at h
  split at h
  · split at h
    · cases h
      have counts : ∀ (s : Track) (index : Nat) (b : Bounds), s.SameGroups (s.setGroup index b) := fun s index b =>
        List.length_set
      obtain ⟨e, he, same⟩ := Node.run_leads (fun _ _ => rfl) counts text p.node _ _ _ ‹_›
      split at same <;> cases same
      exact he.trans List.length_replicate
    · cases h
  · cases h

/-- A match has a text, or none, for each group of its pattern. -/
theorem find?_groups (h : p.find? t = some m) : m.groups.length = p.groups := by
  have first : ∀ (moving : Bool) (count start : Nat), p.findFrom t.toArray moving count start = some m →
      m.groups.length = p.groups := by
    intro moving count
    induction count generalizing moving with
    | zero => exact fun _ h => nomatch h
    | succ n ih =>
      intro start h
      rcases Option.or_eq_some_iff.mp h with h | ⟨_, h⟩
      · exact matchAt_groups h
      · exact ih false _ h
  exact first _ _ _ h

/-- Where a pattern with groups is found, its first group can be asked for. -/
theorem group?_one (groups : p.groups ≠ 0) (h : p.find? t = some m) : ∃ g, m.group? t 1 = some g := by
  have counted : 0 < m.groups.length := by
    rw [find?_groups h]
    exact Nat.pos_of_ne_zero groups
  exact ⟨_, by rw [Match.group?, List.getElem?_eq_getElem counted]; rfl⟩

end Untrack.Pattern
