/-
  Untrack.Pattern.Matcher — matching by backtracking. A tree is run from a place in the text with the groups
  matched so far, and hands every way it can match, in order of preference, to the goal that stands for the
  rest of the pattern; the first way that reaches the end wins.

  A repetition goes through its required rounds first. After these it takes another round only where it has
  moved since the round before, so a body that matches nothing is tried once and not again. Lookarounds and
  atomic groups keep the first way their body matches.
-/

import Untrack.Text.Basic
import Untrack.Pattern.Node

namespace Untrack.Pattern

/-- Where the text of a group starts and stops. -/
abbrev Bounds := Nat × Nat

/-- A place in the text and the groups matched so far; group `i` has index `i - 1`. -/
structure Track where
  place : Nat
  groups : List (Option Bounds)

abbrev Goal := Track → Option Track

def Track.group? (s : Track) (index : Nat) : Option Bounds := (s.groups[index - 1]?).join

def Track.setGroup (s : Track) (index : Nat) (b : Bounds) : Track :=
  { s with groups := s.groups.set (index - 1) (some b) }

def isWordAt (text : Array Char) (ascii : Bool) (place : Nat) : Bool :=
  match text[place]? with
  | some c => Category.word.has ascii c.toNat
  | none => false

def isNewlineAt (text : Array Char) (place : Nat) : Bool := text[place]? == some '\n'

/-- Whether an anchor holds at a place. An empty text has neither word boundaries nor places without one. -/
def Anchor.holds (text : Array Char) (place : Nat) : Anchor → Bool
  | .textStart => place == 0
  | .lineStart => place == 0 || isNewlineAt text (place - 1)
  | .textEnd => place == text.size
  | .lastLineEnd => place == text.size || (place + 1 == text.size && isNewlineAt text place)
  | .lineEnd => place == text.size || isNewlineAt text place
  | .boundary negated ascii =>
    !text.isEmpty &&
      ((0 < place && isWordAt text ascii (place - 1)) != isWordAt text ascii place) != negated

/-- The required rounds of a repetition. -/
def rounds (body : Track → Goal → Option Track) : Nat → Track → Goal → Option Track
  | 0, s, k => k s
  | n + 1, s, k => body s fun s => rounds body n s k

/-- Whether a repetition that last began a round at `last` may take another one. -/
def mayGoOn (most : Option Nat) (last : Option Nat) (s : Track) : Bool := most != some 0 && last != some s.place

/-- Further rounds, more of them preferred. `limit` exceeds the number of rounds that move. -/
def moreGreedy (body : Track → Goal → Option Track) :
    (limit : Nat) → (most last : Option Nat) → Track → Goal → Option Track
  | 0, _, _, s, k => k s
  | limit + 1, most, last, s, k =>
    if mayGoOn most last s then
      match body s fun e => moreGreedy body limit (most.map (· - 1)) (some s.place) e k with
      | some r => some r
      | none => k s
    else k s

/-- Further rounds, fewer of them preferred. -/
def moreLazy (body : Track → Goal → Option Track) :
    (limit : Nat) → (most last : Option Nat) → Track → Goal → Option Track
  | 0, _, _, s, k => k s
  | limit + 1, most, last, s, k =>
    match k s with
    | some r => some r
    | none =>
      if mayGoOn most last s then
        body s fun e => moreLazy body limit (most.map (· - 1)) (some s.place) e k
      else none

/-- Further rounds, each kept as it first matches. -/
def morePossessive (body : Track → Goal → Option Track) :
    (limit : Nat) → (most last : Option Nat) → Track → Track
  | 0, _, _, s => s
  | limit + 1, most, last, s =>
    if mayGoOn most last s then
      match body s some with
      | some e => morePossessive body limit (most.map (· - 1)) (some s.place) e
      | none => s
    else s

/-- The required rounds, each kept as it first matches. -/
def keptRounds (body : Track → Goal → Option Track) : Nat → Track → Option Track
  | 0, s => some s
  | n + 1, s => (body s some).bind (keptRounds body n)

/-- Whether the text of a group stands at a place. -/
def standsAt (text : Array Char) (folding : Folding) (b : Bounds) (place : Nat) : Bool :=
  place + (b.2 - b.1) ≤ text.size &&
    (List.range (b.2 - b.1)).all fun i =>
      match text[b.1 + i]?, text[place + i]? with
      | some c, some d => folding.lower c.toNat == folding.lower d.toNat
      | _, _ => false

namespace Node

def run (text : Array Char) : Node → Track → Goal → Option Track
  | .nothing, s, k => k s
  | .letter t, s, k =>
    match text[s.place]? with
    | some c => if t.holds c then k { s with place := s.place + 1 } else none
    | none => none
  | .anchor a, s, k => if a.holds text s.place then k s else none
  | .next a b, s, k => a.run text s fun e => b.run text e k
  | .either a b, s, k =>
    match a.run text s k with
    | some r => some r
    | none => b.run text s k
  | .group index body, s, k => body.run text s fun e => k (e.setGroup index (s.place, e.place))
  | .again appetite least most body, s, k =>
    let limit := text.size + 2
    let left := most.map (· - least)
    match appetite with
    | .greedy => rounds (body.run text) least s fun e => moreGreedy (body.run text) limit left none e k
    | .lazy => rounds (body.run text) least s fun e => moreLazy (body.run text) limit left none e k
    | .possessive =>
      match keptRounds (body.run text) least s with
      | some e => k (morePossessive (body.run text) limit left none e)
      | none => none
  | .same index folding, s, k =>
    match s.group? index with
    | some b => if standsAt text folding b s.place then k { s with place := s.place + (b.2 - b.1) } else none
    | none => none
  | .ahead wanted body, s, k =>
    match body.run text s some with
    | some e => if wanted then k { e with place := s.place } else none
    | none => if wanted then none else k s
  | .behind wanted width body, s, k =>
    if s.place < width.least then if wanted then none else k s
    else
      match body.run text { s with place := s.place - width.least } some with
      | some e => if wanted then k { e with place := s.place } else none
      | none => if wanted then none else k s
  | .atomic body, s, k =>
    match body.run text s some with
    | some e => k e
    | none => none
  | .ifGroup index yes no, s, k => if (s.group? index).isSome then yes.run text s k else no.run text s k

end Node
end Untrack.Pattern
