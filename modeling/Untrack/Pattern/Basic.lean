/-
  Untrack.Pattern.Basic — patterns ready for use. A pattern is found in a text at the first place where it
  matches; it is deleted from a text by taking out its matches from left to right, where a match of nothing
  counts only if it does not touch the match before it at the same place.

  The text of a group is a slice of the searched text (`Match.group?_sublist`), and deleting a pattern only
  takes characters out (`delete_sublist`).
-/

import Untrack.Pattern.Reader
import Untrack.Pattern.Matcher

namespace Untrack

/-- A pattern: its text, its syntax tree and the number of its groups. -/
structure Pattern where
  source : Text
  node : Pattern.Node
  groups : Nat
  deriving DecidableEq, Repr

namespace Pattern

def compile (source : Text) : Except Fault Pattern := do
  let (node, groups) ← read source
  return ⟨source, node, groups⟩

/-- Where a pattern matched, and what its groups matched. -/
structure Match where
  start : Nat
  stop : Nat
  start_le_stop : start ≤ stop
  groups : List (Option Bounds)

/-- The match that starts at a place; if `moving`, one of nothing is passed over. -/
def matchAt (p : Pattern) (text : Array Char) (moving : Bool) (start : Nat) : Option Match :=
  match p.node.run text ⟨start, List.replicate p.groups none⟩ fun e =>
      if moving && e.place == start then none else some e with
  | some e => if h : start ≤ e.place then some ⟨start, e.place, h, e.groups⟩ else none
  | none => none

/-- The first match among `count` places from `start` on; `moving` concerns the first of them only. -/
def findFrom (p : Pattern) (text : Array Char) (moving : Bool) : (count : Nat) → (start : Nat) → Option Match
  | 0, _ => none
  | n + 1, start => (p.matchAt text moving start).or (findFrom p text false n (start + 1))

/-- The first match in a text. -/
def find? (p : Pattern) (t : Text) : Option Match := p.findFrom t.toArray false (t.length + 1) 0

def matchesIn (p : Pattern) (t : Text) : Bool := (p.find? t).isSome

/-- The text of a group: nothing when the pattern has no such group, and no text when it took no part. -/
def Match.group? (m : Match) (t : Text) (index : Nat) : Option (Option Text) :=
  match index with
  | 0 => some (some (t.slice m.start m.stop))
  | i + 1 => (m.groups[i]?).map fun b => b.map fun b => t.slice b.1 b.2

/-- The characters left from place `start` on, `left`, without the matches found there. -/
def deleteFrom (p : Pattern) (text : Array Char) :
    (limit : Nat) → (moving : Bool) → (start : Nat) → (left : Text) → Text
  | 0, _, _, left => left
  | limit + 1, moving, start, left =>
    match p.findFrom text moving (text.size + 1 - start) start with
    | none => left
    | some m =>
      left.take (m.start - start) ++
        deleteFrom p text limit (m.start == m.stop) m.stop (left.drop (m.stop - start))

/-- A text without the matches of a pattern. -/
def delete (p : Pattern) (t : Text) : Text := p.deleteFrom t.toArray (2 * t.length + 2) false 0 t

theorem Match.group?_sublist {m : Match} {t g : Text} {index : Nat} (h : m.group? t index = some (some g)) :
    g.Sublist t := by
  cases index with
  | zero =>
    simp only [Match.group?, Option.some.injEq] at h
    exact h ▸ t.slice_sublist _ _
  | succ i =>
    simp only [Match.group?, Option.map_eq_some_iff] at h
    obtain ⟨b, -, hb⟩ := h
    obtain ⟨c, -, rfl⟩ := hb
    exact t.slice_sublist _ _

theorem deleteFrom_sublist (p : Pattern) (text : Array Char) (limit : Nat) (moving : Bool) (start : Nat)
    (left : Text) : (p.deleteFrom text limit moving start left).Sublist left := by
  induction limit generalizing moving start left with
  | zero => exact List.Sublist.refl _
  | succ limit ih =>
    unfold deleteFrom
    split
    · exact List.Sublist.refl _
    · rename_i m _
      have hm : m.start - start ≤ m.stop - start := Nat.sub_le_sub_right m.start_le_stop start
      refine List.Sublist.trans (List.Sublist.append (List.Sublist.refl _) (ih _ _ _)) ?_
      conv => rhs; rw [← List.take_append_drop (m.start - start) left]
      refine List.Sublist.append (List.Sublist.refl _) ?_
      have : left.drop (m.stop - start) = (left.drop (m.start - start)).drop (m.stop - start - (m.start - start)) := by
        rw [List.drop_drop, Nat.add_sub_of_le hm]
      rw [this]
      exact List.drop_sublist _ _

/-- Deleting a pattern only takes characters out. -/
theorem delete_sublist (p : Pattern) (t : Text) : (p.delete t).Sublist t := p.deleteFrom_sublist _ _ _ _ _

end Pattern
end Untrack
