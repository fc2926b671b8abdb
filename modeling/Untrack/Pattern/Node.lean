/-
  Untrack.Pattern.Node — the syntax tree of a pattern, with the settings of case and lines already worked into
  its letters and anchors, and the least and greatest number of characters a tree can match.
-/

import Untrack.Pattern.Letter

namespace Untrack.Pattern

inductive Anchor
  | textStart
  | lineStart
  | textEnd
  /-- The end of the text, or the place before a newline that ends it. -/
  | lastLineEnd
  | lineEnd
  | boundary (negated ascii : Bool)
  deriving DecidableEq, Repr

/-- How a repetition chooses its count: as many as possible, as few as possible, or as many as possible
without ever giving one back. -/
inductive Appetite
  | greedy
  | lazy
  | possessive
  deriving DecidableEq, Repr

structure Width where
  least : Nat
  most : Nat
  deriving DecidableEq, Repr

inductive Node
  | nothing
  | letter (t : LetterTest)
  | anchor (a : Anchor)
  | next (a b : Node)
  | either (a b : Node)
  | group (index : Nat) (body : Node)
  | again (appetite : Appetite) (least : Nat) (most : Option Nat) (body : Node)
  /-- The text of a group once more. -/
  | same (index : Nat) (folding : Folding)
  | ahead (wanted : Bool) (body : Node)
  /-- What stands before the place; `width` is that of the body. -/
  | behind (wanted : Bool) (width : Width) (body : Node)
  | atomic (body : Node)
  | ifGroup (index : Nat) (yes no : Node)
  deriving DecidableEq, Repr

/-- One more than the greatest repetition count. -/
def countBound : Nat := 4294967295

def Width.capped (least most : Nat) : Width := ⟨min least (countBound - 1), min most countBound⟩

/-- The width of a tree, given those of the groups. -/
def Node.width (groupWidth : Nat → Width) : Node → Width
  | .nothing => ⟨0, 0⟩
  | .letter _ => ⟨1, 1⟩
  | .anchor _ => ⟨0, 0⟩
  | .next a b =>
    let wa := a.width groupWidth
    let wb := b.width groupWidth
    .capped (wa.least + wb.least) (wa.most + wb.most)
  | .either a b =>
    let wa := a.width groupWidth
    let wb := b.width groupWidth
    ⟨min wa.least wb.least, max wa.most wb.most⟩
  | .group _ body => body.width groupWidth
  | .again _ least most body =>
    let w := body.width groupWidth
    .capped (w.least * least) (w.most * most.getD countBound)
  | .same index _ => groupWidth index
  | .ahead _ _ => ⟨0, 0⟩
  | .behind _ _ _ => ⟨0, 0⟩
  | .atomic body => body.width groupWidth
  | .ifGroup _ yes no =>
    let wy := yes.width groupWidth
    let wn := no.width groupWidth
    ⟨min wy.least wn.least, max wy.most wn.most⟩

end Untrack.Pattern
