/-
  Untrack.Proofs.Pattern.Limits — a pattern that cannot be compiled has a mistake in it, or shows the limit that it
  runs into (`shows_of_compile`): a count too large or too long stands in its text digit by digit, and so do flags that
  ask for both sets of character classes.

  Every reader stays within the text: what is left after it is an end of the text, and a set of classes that is asked
  for by then stands in it (`Within`, `Reads`). What a reader takes is told apart from that, for the few readers whose
  characters matter to a limit (`Leaves`); a limit is then found in what they took.
-/

import Mathlib
import Untrack.Pattern.Basic
import Untrack.Proofs.Json.Reading

set_option mvcgen.warning false

namespace Untrack.Pattern

open Std.Do

/-- Flags for the whole pattern stand in the text, this one among them. -/
def Asks (flag : Char) (t : Text) : Prop :=
  ∃ letters : Text, '(' :: '?' :: letters ++ [')'] <:+: t ∧ flag ∈ letters ∧ ∀ c ∈ letters, c ∈ "aiLmstux".toList

/-- The limit that reading runs into shows in the text. -/
def Fault.Shows (t : Text) : Fault → Prop
  | .mistake _ _ => True
  | .countTooLarge => ∃ digits, digits <:+: t ∧ (∀ c ∈ digits, c.isDigit = true) ∧
      countBound ≤ Numeral.digitsValue digits
  | .longCount n => Json.LongRun n t
  | .classesClash => Asks 'a' t ∧ Asks 'u' t

namespace Reader

/-! ## Texts as tokens -/

theorem written_tokens (t : Text) : (tokens t).flatMap Token.text = t := by
  induction t using tokens.induct with
  | case1 => rfl
  | case2 => rfl
  | case3 c r ih => rw [tokens, List.flatMap_cons, ih]; rfl
  | case4 c r h h' ih =>
    rw [tokens, List.flatMap_cons, ih]
    · rfl
    · exact h
    · exact h'

/-- Characters that stand among the tokens one after the other stand so in the text. -/
theorem infix_of_tokens {l t : Text} (h : l.map .plain <:+: tokens t) : l <:+: t := by
  obtain ⟨before, after, h⟩ := h
  refine ⟨before.flatMap Token.text, after.flatMap Token.text, ?_⟩
  have plain : (l.map Token.plain).flatMap Token.text = l := (List.flatMap_map ..).trans (List.flatMap_singleton' l)
  rw [← written_tokens t, ← h, List.flatMap_append, List.flatMap_append, plain]

/-- What is left is an end of the pattern, and the sets of character classes asked for are so in its text. -/
structure Within (t : Text) (left : List Token) (asciiSet unicodeSet : Bool) : Prop where
  left : left <:+ tokens t
  ascii : asciiSet = true → Asks 'a' t
  unicode : unicodeSet = true → Asks 'u' t

theorem Within.head_suffix {t : Text} {token : Token} {left : List Token} {asciiSet unicodeSet : Bool}
    (h : Within t left asciiSet unicodeSet) (first : left.head? = some token) : token :: left.tail <:+ tokens t := by
  obtain ⟨rest, rfl⟩ := List.head?_eq_some_iff.mp first
  exact h.left

/-- Where reading stops at a limit, the limit shows in the text. -/
def Stop.Shows (t : Text) : Stop → Prop
  | .mistake _ _ => True
  | .countTooLarge => Fault.countTooLarge.Shows t
  | .longCount n => (Fault.longCount n).Shows t
  | .classesClash => Fault.classesClash.Shows t

variable {α : Type} {t : Text}

/-- What a triple says of one run. -/
theorem triple_iff {act : Read α} {P : State → Prop} {Q : α → State → Prop} {E : Stop → Prop} :
    ⦃fun s => ⌜P s⌝⦄ act ⦃post⟨fun a s => ⌜Q a s⌝, fun e => ⌜E e⌝⟩⦄ ↔
      ∀ s, P s → match act s with
        | .ok (a, s') => Q a s'
        | .error e => E e := by
  rw [Triple.iff]
  refine forall_congr' fun s => ?_
  have run : wp⟦act⟧ post⟨fun a s => ⌜Q a s⌝, fun e => ⌜E e⌝⟩ s =
      wp⟦act.run s⟧ post⟨fun r => ⌜Q r.1 r.2⌝, fun e => ⌜E e⌝⟩ := rfl
  rw [run]
  rcases h : act s with e | ⟨a, s'⟩
  · have stopped : act.run s = .error e := h
    rw [stopped]
    exact Iff.rfl
  · have ended : act.run s = .ok (a, s') := h
    rw [ended]
    exact Iff.rfl

/-! ## What is taken -/

/-- With these tokens left, what the reader gives and what it leaves are so related. -/
abbrev Leaves (l : List Token) (act : Read α) (Q : α → List Token → Prop) : Prop :=
  ⦃fun s => ⌜s.left = l⌝⦄ act ⦃post⟨fun a s => ⌜Q a s.left⌝, fun _ => ⌜True⌝⟩⦄

theorem leaves_anything (l : List Token) (act : Read α) : Leaves l act fun _ _ => True := by
  refine triple_iff.mpr fun s _ => ?_
  rcases act s with e | ⟨a, s'⟩ <;> trivial

theorem fail_leaves (l : List Token) (m : Mistake) (back : Nat) : Leaves l (fail m back : Read α) fun _ _ => False := by
  intro s h
  trivial

theorem checkDangling_leaves (l : List Token) : Leaves l checkDangling fun _ rest => rest = l := by
  mvcgen [checkDangling, peek, fail_leaves]
  exact False.elim

theorem take_leaves (l : List Token) : Leaves l take fun r rest => r = l.head? ∧ rest = l.tail := by
  mvcgen [take, checkDangling_leaves]
  · obtain rfl := ‹State.left _ = l›
    simp_all
  · obtain rfl := ‹State.left _ = l›
    simp_all

theorem skip_leaves (l : List Token) : Leaves l skip fun _ rest => rest = l.tail := by
  mvcgen [skip, take_leaves]
  obtain rfl := ‹State.left _ = l›
  simp_all

theorem accept_leaves (c : Char) (l : List Token) :
    Leaves l (accept c) fun b rest => b = true → l = .plain c :: rest := by
  mvcgen [accept, peekIs, peek, skip_leaves]
  · obtain rfl := ‹State.left _ = l›
    obtain ⟨rest, h⟩ := List.head?_eq_some_iff.mp (beq_iff_eq.mp ‹_›)
    simp_all
  · exact fun h => nomatch h

theorem plain?_eq_some {c : Char} {token : Option Token} (h : plain? token = some c) : token = some (.plain c) := by
  unfold plain? at h
  split at h <;> cases h
  rfl

theorem takeUpTo_leaves (p : Char → Bool) (n : Nat) (l : List Token) :
    Leaves l (takeUpTo p n) fun cs rest => l = cs.map .plain ++ rest ∧ ∀ c ∈ cs, p c = true := by
  induction n generalizing l with
  | zero =>
    mvcgen [takeUpTo]
    simp_all
  | succ n ih =>
    mvcgen [takeUpTo, peek, skip_leaves, ih]
    · obtain rfl := ‹State.left _ = l›
      obtain ⟨rest, h⟩ := List.head?_eq_some_iff.mp (plain?_eq_some ‹plain? _ = some _›)
      simp_all
    · simp_all
    · simp_all

/-! ## Flags -/

/-- The tokens are flags, then a character that ends them, and then the rest. What is on after them was on before or is
one of them. -/
def Letters (l : List Token) (before after : List Flag) (stop : Char) (rest : List Token) : Prop :=
  ∃ letters : Text, l = letters.map .plain ++ .plain stop :: rest ∧ (∀ c ∈ letters, (flag? (.plain c)).isSome = true) ∧
    ∀ f ∈ after, f ∈ before ∨ ∃ c ∈ letters, flag? (.plain c) = some f

section Letters

variable {token : Token} {f : Flag} {before after : List Flag} {stop : Char} {l rest : List Token}

/-- Only characters are flags. -/
theorem plain_of_flag (h : flag? token = some f) : ∃ c, token = .plain c := by
  cases token with
  | plain c => exact ⟨c, rfl⟩
  | _ => cases h

theorem Letters.one (h : flag? token = some f) (hl : some (.plain stop) = l.head? ∧ rest = l.tail) :
    Letters (token :: l) before (f :: before) stop rest := by
  obtain ⟨c, rfl⟩ := plain_of_flag h
  obtain ⟨rest, rfl⟩ := List.head?_eq_some_iff.mp hl.1.symm
  refine ⟨[c], by rw [hl.2]; rfl, List.forall_mem_singleton.mpr (by rw [h]; rfl), fun g hg => ?_⟩
  rcases List.mem_cons.mp hg with rfl | hg
  · exact Or.inr ⟨c, List.mem_singleton_self c, h⟩
  · exact Or.inl hg

theorem Letters.cons {next : Token} {left : List Token} (h : flag? token = some f)
    (hl : some next = l.head? ∧ left = l.tail) (k : Letters (next :: left) (f :: before) after stop rest) :
    Letters (token :: l) before after stop rest := by
  obtain ⟨c, rfl⟩ := plain_of_flag h
  obtain ⟨letters, same, flags, all⟩ := k
  obtain ⟨tail, rfl⟩ := List.head?_eq_some_iff.mp hl.1.symm
  rw [hl.2, List.tail_cons] at same
  refine ⟨c :: letters, by rw [same]; rfl, List.forall_mem_cons.mpr ⟨by rw [h]; rfl, flags⟩, fun g hg => ?_⟩
  rcases all g hg with hb | ⟨d, hd, written⟩
  · rcases List.mem_cons.mp hb with rfl | hb
    · exact Or.inr ⟨c, List.mem_cons_self, h⟩
    · exact Or.inl hb
  · exact Or.inr ⟨d, List.mem_cons_of_mem _ hd, written⟩

end Letters

theorem flagsOn_leaves (limit : Nat) (token : Token) (on : List Flag) (l : List Token) :
    Leaves l (flagsOn limit token on) fun r rest => Letters (token :: l) on r.1 r.2 rest := by
  induction limit generalizing token on l with
  | zero =>
    mvcgen [flagsOn, fail_leaves]
    exact False.elim
  | succ limit ih =>
    mvcgen [flagsOn, fail_leaves, take_leaves, ih]
    all_goals obtain rfl := ‹State.left _ = l›
    all_goals try exact False.elim
    · exact .one ‹_› ‹_›
    · exact .one ‹_› ‹_›
    · exact .one ‹_› ‹_›
    · exact .cons ‹_› ‹_›

theorem setting_leaves (token : Token) (l : List Token) :
    Leaves l (setting token) fun r rest => ∀ on, r = .whole on → Letters (token :: l) [] on ')' rest := by
  have off : ∀ limit token off l, Leaves l (flagsOff limit token off) fun _ _ => True := fun _ _ _ _ =>
    leaves_anything _ _
  mvcgen [setting, fail_leaves, take_leaves, flagsOn_leaves, off]
  all_goals obtain rfl := ‹State.left _ = l›
  all_goals try (rintro on ⟨⟩; done)
  rintro on ⟨⟩
  rw [← ‹Prod.snd _ = ')'›]
  assumption

theorem opening_leaves (l : List Token) :
    Leaves l opening fun r rest =>
      ∀ on, r = .whole on → ∃ left, l = .plain '?' :: left ∧ Letters left [] on ')' rest := by
  have name : ∀ c what l, Leaves l (nameUntil c what) fun _ _ => True := fun _ _ _ => leaves_anything _ _
  have check : ∀ name l, Leaves l (checkGroupName name) fun _ _ => True := fun _ _ => leaves_anything _ _
  mvcgen [opening, fail_leaves, take_leaves, accept_leaves, setting_leaves, name, check]
  all_goals obtain rfl := ‹State.left _ = l›
  all_goals try exact False.elim
  all_goals try (rintro on ⟨⟩; done)
  -- the settings for the whole pattern, the first of them taken already
  rintro on ⟨⟩
  have mark := ‹_ = true → State.left _ = Token.plain '?' :: _› (by simpa using ‹¬(!_) = true›)
  rename_i next _ _ _ _ letters _
  obtain ⟨left, hl⟩ := List.head?_eq_some_iff.mp next.1.symm
  refine ⟨_, mark, ?_⟩
  have after := letters _ rfl
  rwa [next.2, hl, List.tail_cons, ← hl] at after

/-! ## What all readers keep -/

/-- The reader stays within the pattern, and stops at no limit that does not show in it. -/
abbrev Reads (t : Text) (act : Read α) : Prop :=
  ⦃fun s => ⌜Within t s.left s.asciiSet s.unicodeSet⌝⦄ act
    ⦃post⟨fun _ s => ⌜Within t s.left s.asciiSet s.unicodeSet⌝, fun e => ⌜e.Shows t⌝⟩⦄

/-! ## Tokens -/

theorem throw_reads (e : Stop) :
    ⦃fun _ => ⌜e.Shows t⌝⦄ (throw e : Read α) ⦃post⟨fun _ _ => ⌜False⌝, fun e => ⌜e.Shows t⌝⟩⦄ :=
  fun _ shows => shows

@[spec] theorem failAt_reads (m : Mistake) (position : Nat) : Reads t (failAt m position : Read α) := by
  intro s h
  trivial

@[spec] theorem fail_reads (m : Mistake) (back : Nat) : Reads t (fail m back : Read α) := by
  intro s h
  trivial

@[spec] theorem checkDangling_reads : Reads t checkDangling := by
  mvcgen [checkDangling, peek]

@[spec] theorem take_reads : Reads t take := by
  mvcgen [take]
  have h := ‹Within t _ _ _›
  exact ⟨(List.suffix_cons _ _).trans (‹State.left _ = _› ▸ h.left), h.ascii, h.unicode⟩

@[spec] theorem skip_reads : Reads t skip := by
  mvcgen [skip]

@[spec] theorem peekIs_reads (c : Char) : Reads t (peekIs c) := by
  mvcgen [peekIs, peek]

@[spec] theorem accept_reads (c : Char) : Reads t (accept c) := by
  mvcgen [accept]

@[spec] theorem takeUpTo_reads (p : Char → Bool) (n : Nat) : Reads t (takeUpTo p n) := by
  induction n with
  | zero => mvcgen [takeUpTo]
  | succ n ih => mvcgen [takeUpTo, peek, ih]

@[spec] theorem takeUntil_reads (terminator : Char) (what : String) (limit : Nat) (read : Text) :
    Reads t (takeUntil terminator what limit read) := by
  induction limit generalizing read with
  | zero => mvcgen [takeUntil]
  | succ limit ih => mvcgen [takeUntil, ih]

@[spec] theorem nameUntil_reads (terminator : Char) (what : String) : Reads t (nameUntil terminator what) := by
  mvcgen [nameUntil]

/-! ## Escapes -/

@[spec] theorem hexEscape_reads (written : Text) (n : Nat) : Reads t (hexEscape written n) := by
  mvcgen [hexEscape]

@[spec] theorem namedEscape_reads : Reads t namedEscape := by
  mvcgen [namedEscape]

theorem codeEscape?_reads {c : Char} {code : Read Nat} (h : codeEscape? c = some code) : Reads t code := by
  unfold codeEscape? at h
  split at h <;> cases h
  · exact hexEscape_reads _ _
  · exact hexEscape_reads _ _
  · exact hexEscape_reads _ _
  · exact namedEscape_reads

@[spec] theorem checkedOctal_reads (digits : Text) : Reads t (checkedOctal digits) := by
  mvcgen [checkedOctal]

@[spec] theorem literalEscape_reads (c : Char) : Reads t (literalEscape c) := by
  mvcgen [literalEscape]

@[spec] theorem setEscape_reads (c : Char) : Reads t (setEscape c) := by
  rcases h : codeEscape? c with _ | code
  · mvcgen [setEscape, h]
  · have coded : Reads t code := codeEscape?_reads h
    mvcgen [setEscape, h, coded]

@[spec] theorem checkLookbehind_reads (index : Nat) : Reads t (checkLookbehind index) := by
  mvcgen [checkLookbehind]

@[spec] theorem numberEscape_reads (c : Char) : Reads t (numberEscape c) := by
  mvcgen [numberEscape, groupCount]

@[spec] theorem escape_reads (c : Char) : Reads t (escape c) := by
  rcases h : codeEscape? c with _ | code
  · mvcgen [escape, h]
  · have coded : Reads t code := codeEscape?_reads h
    mvcgen [escape, h, coded]

/-! ## Sets -/

@[spec] theorem setMember_reads (token : Token) : Reads t (setMember token) := by
  cases token <;> mvcgen [setMember]

@[spec] theorem setItems_reads (start limit : Nat) (read : List SetItem) : Reads t (setItems start limit read) := by
  induction limit generalizing read with
  | zero => mvcgen [setItems]
  | succ limit ih => mvcgen [setItems, ih]

/-! ## Settings -/

@[spec] theorem flagsOn_reads (limit : Nat) (token : Token) (on : List Flag) : Reads t (flagsOn limit token on) := by
  induction limit generalizing token on with
  | zero => mvcgen [flagsOn]
  | succ limit ih => mvcgen [flagsOn, ih]

@[spec] theorem flagsOff_reads (limit : Nat) (token : Token) (off : List Flag) :
    Reads t (flagsOff limit token off) := by
  induction limit generalizing token off with
  | zero => mvcgen [flagsOff]
  | succ limit ih => mvcgen [flagsOff, ih]

@[spec] theorem setting_reads (token : Token) : Reads t (setting token) := by
  mvcgen [setting]

/-! ## Parts of sequences -/

@[spec] theorem letterPiece_reads (n : Nat) : Reads t (letterPiece n) := by
  mvcgen [letterPiece]

@[spec] theorem setPiece_reads (negated : Bool) (items : List SetItem) : Reads t (setPiece negated items) := by
  mvcgen [setPiece]

@[spec] theorem escapePiece_reads (c : Char) : Reads t (escapePiece c) := by
  mvcgen [escapePiece]

@[spec] theorem appetite_reads : Reads t appetite := by
  mvcgen [appetite]

@[spec] theorem repeated_reads (start least : Nat) (most : Option Nat) (read : List Piece) :
    Reads t (repeated start least most read) := by
  mvcgen [repeated]

@[spec] theorem skipComment_reads (limit : Nat) : Reads t (skipComment limit) := by
  induction limit with
  | zero => mvcgen [skipComment]
  | succ limit ih => mvcgen [skipComment, ih]

@[spec] theorem skipRemark_reads (start limit : Nat) : Reads t (skipRemark start limit) := by
  induction limit with
  | zero => mvcgen [skipRemark]
  | succ limit ih => mvcgen [skipRemark, ih]

/-! ## Groups -/

@[spec] theorem checkGroupName_reads (name : Text) : Reads t (checkGroupName name) := by
  mvcgen [checkGroupName]

@[spec] theorem namedGroup_reads (name : Text) : Reads t (namedGroup name) := by
  mvcgen [namedGroup]

@[spec] theorem namedReference_reads : Reads t namedReference := by
  mvcgen [namedReference]

@[spec] theorem conditionGroup_reads : Reads t conditionGroup := by
  mvcgen [conditionGroup, here]
  all_goals
    dsimp +zetaDelta only
    split
    · assumption
    · assumption

@[spec] theorem openGroup_reads (name : Option Text) : Reads t (openGroup name) := by
  mvcgen [openGroup]

@[spec] theorem closing_reads (start : Nat) : Reads t (closing start) := by
  mvcgen [closing]

theorem opening_reads : Reads t opening := by
  mvcgen [opening]

@[spec] theorem withFlags_reads (f : Flags → Flags) {act : Read α} (h : Reads t act) : Reads t (withFlags f act) := by
  mvcgen [withFlags, h]

@[spec] theorem withLookbehind_reads {act : Read α} (h : Reads t act) : Reads t (withLookbehind act) := by
  mvcgen [withLookbehind, h]

/-! ## Counts -/

/-- What a reader keeps to and what it leaves, of one run. -/
theorem Reads.leaving {act : Read α} {Q : List Token → α → List Token → Prop} (h : Reads t act)
    (k : ∀ l, Leaves l act (Q l)) (s : State) (hs : Within t s.left s.asciiSet s.unicodeSet) :
    match act s with
      | .ok (a, s') => Within t s'.left s'.asciiSet s'.unicodeSet ∧ Q s.left a s'.left
      | .error e => e.Shows t := by
  have reads := triple_iff.mp h s hs
  have leaves := triple_iff.mp (k s.left) s rfl
  rcases ha : act s with e | ⟨a, s'⟩ <;> rw [ha] at reads leaves
  · exact reads
  · exact ⟨reads, leaves⟩

/-- Characters of a kind stand in the text one after the other. -/
def Row (p : Char → Bool) (t cs : Text) : Prop := cs <:+: t ∧ ∀ c ∈ cs, p c = true

@[spec] theorem takeWhile_reads (p : Char → Bool) :
    ⦃fun s => ⌜Within t s.left s.asciiSet s.unicodeSet⌝⦄ takeWhile p
      ⦃post⟨fun cs s => ⌜Within t s.left s.asciiSet s.unicodeSet ∧ Row p t cs⌝, fun e => ⌜e.Shows t⌝⟩⦄ := by
  refine triple_iff.mpr fun s hs => ?_
  have run := (takeUpTo_reads p s.left.length).leaving (takeUpTo_leaves p s.left.length) s hs
  have start : takeWhile p s = takeUpTo p s.left.length s := rfl
  rw [start]
  rcases h : takeUpTo p s.left.length s with e | ⟨cs, s'⟩ <;> rw [h] at run
  · exact run
  · obtain ⟨kept, taken, all⟩ := run
    refine ⟨kept, infix_of_tokens ?_, all⟩
    exact (taken ▸ List.prefix_append _ _ : cs.map Token.plain <+: s.left).isInfix.trans hs.left.isInfix

/-- A count past a limit is so as it is written. -/
theorem count_reads {digits : Text} (row : Row Char.isDigit t digits) : Reads t (count digits) := by
  mvcgen [count, throw_reads, -Spec.throw_MonadExcept]
  · exact ⟨‹_›, digits, row.1, rfl, row.2⟩
  · exact ⟨digits, row.1, row.2, ‹_›⟩

@[spec] theorem counts?_reads : Reads t counts? := by
  mvcgen [counts?, count_reads]
  all_goals simp_all

/-! ## Sequences -/

/-- The flags for the whole pattern are so written in it. -/
def Opening.IsWritten (t : Text) : Opening → Prop
  | .whole on => (.ascii ∈ on → Asks 'a' t) ∧ (.unicode ∈ on → Asks 'u' t)
  | _ => True

theorem mem_of_flag {c : Char} (h : (flag? (.plain c)).isSome = true) : c ∈ "aiLmstux".toList := by
  unfold flag? at h
  split at h <;> simp_all

/-- A flag that is on for the whole pattern stands in its text. -/
theorem asks_of_letters {left rest : List Token} {on : List Flag} {f : Flag} {flag : Char}
    (h : Letters left [] on ')' rest) (hl : .plain '(' :: .plain '?' :: left <:+ tokens t) (hf : f ∈ on)
    (written : ∀ c, flag? (.plain c) = some f → c = flag) : Asks flag t := by
  obtain ⟨letters, rfl, flags, all⟩ := h
  refine ⟨letters, infix_of_tokens ?_, ?_, fun c hc => mem_of_flag (flags c hc)⟩
  · refine List.IsInfix.trans (List.IsPrefix.isInfix ⟨rest, ?_⟩) hl.isInfix
    simp
  · rcases all f hf with before | ⟨c, hc, same⟩
    · cases before
    · exact written c same ▸ hc

/-- Among the flags for the whole pattern those for character classes are found in its text. -/
theorem isWritten_of_letters {left rest : List Token} {on : List Flag} (h : Letters left [] on ')' rest)
    (hl : .plain '(' :: .plain '?' :: left <:+ tokens t) : (Opening.whole on).IsWritten t := by
  refine ⟨fun ha => asks_of_letters h hl ha fun c hc => ?_, fun hu => asks_of_letters h hl hu fun c hc => ?_⟩
  · unfold flag? at hc
    split at hc <;> simp_all
  · unfold flag? at hc
    split at hc <;> simp_all

@[spec] theorem opening_writes :
    ⦃fun s => ⌜Within t s.left s.asciiSet s.unicodeSet ∧ .plain '(' :: s.left <:+ tokens t⌝⦄ opening
      ⦃post⟨fun o s => ⌜Within t s.left s.asciiSet s.unicodeSet ∧ o.IsWritten t⌝, fun e => ⌜e.Shows t⌝⟩⦄ := by
  refine triple_iff.mpr fun s ⟨hs, after⟩ => ?_
  have run := opening_reads.leaving opening_leaves s hs
  rcases h : opening s with e | ⟨o, s'⟩ <;> rw [h] at run
  · exact run
  · refine ⟨run.1, ?_⟩
    cases o with
    | whole on =>
      obtain ⟨left, hl, letters⟩ := run.2 on rfl
      exact isWritten_of_letters letters (hl ▸ after)
    | _ => trivial

@[spec] theorem setWhole_reads (on : List Flag) :
    ⦃fun s => ⌜Within t s.left s.asciiSet s.unicodeSet ∧ (Opening.whole on).IsWritten t⌝⦄ setWhole on
      ⦃post⟨fun _ s => ⌜Within t s.left s.asciiSet s.unicodeSet⌝, fun e => ⌜e.Shows t⌝⟩⦄ := by
  refine triple_iff.mpr fun s ⟨hs, ascii, unicode⟩ => ⟨hs.left, fun h => ?_, fun h => ?_⟩
  · rcases Bool.or_eq_true_iff.mp h with h | h
    · exact hs.ascii h
    · exact ascii (List.contains_iff_mem.mp h)
  · rcases Bool.or_eq_true_iff.mp h with h | h
    · exact hs.unicode h
    · exact unicode (List.contains_iff_mem.mp h)

/-- Taking a token within the pattern leaves what came after it. -/
theorem skip_steps (start : State) :
    ⦃fun s => ⌜s = start⌝⦄ skip
      ⦃post⟨fun _ s => ⌜Within t start.left start.asciiSet start.unicodeSet →
        Within t s.left s.asciiSet s.unicodeSet ∧ s.left = start.left.tail⌝,
        fun e => ⌜Within t start.left start.asciiSet start.unicodeSet → e.Shows t⌝⟩⦄ := by
  refine triple_iff.mpr ?_
  rintro s rfl
  rcases h : skip s with e | ⟨_, s'⟩
  · intro hs
    simpa only [h] using skip_reads.leaving skip_leaves s hs
  · intro hs
    simpa only [h] using skip_reads.leaving skip_leaves s hs

/-- The readers of groups and sequences: induction on the limit, for all three at once. -/
theorem nested_reads (limit : Nat) :
    (∀ top read, Reads t (branches limit top read)) ∧ (∀ first read, Reads t (sequence limit first read)) ∧
      ∀ start first, ⦃fun s => ⌜Within t s.left s.asciiSet s.unicodeSet ∧ .plain '(' :: s.left <:+ tokens t⌝⦄
        group limit start first
        ⦃post⟨fun _ s => ⌜Within t s.left s.asciiSet s.unicodeSet⌝, fun e => ⌜e.Shows t⌝⟩⦄ := by
  induction limit with
  | zero =>
    refine ⟨fun top read => ?_, fun first read => ?_, fun start first => ?_⟩
    · mvcgen [branches]
    · mvcgen [sequence]
    · mvcgen [group]
      exact (‹_ ∧ _› : _ ∧ _).1
  | succ limit ih =>
    obtain ⟨branches, sequence, group⟩ := ih
    refine ⟨fun top read => ?_, fun first read => ?_, fun start first => ?_⟩
    · mvcgen [Reader.branches, sequence, branches]
    · have step := skip_steps (t := t)
      mvcgen [Reader.sequence, peek, here, -skip_reads, step, sequence, group]
      all_goals try exact fun shows => shows ‹Within t _ _ _›
      all_goals have kept := ‹Within t _ _ _ → Within t _ _ _ ∧ _› ‹_›
      all_goals try exact kept.1
      -- a parenthesis opens a group, and it came before what is left
      obtain rfl := ‹_ = '('›
      obtain rfl := ‹_ = Token.plain '('›
      exact ⟨kept.1, kept.2 ▸ ‹Within t (State.left _) _ _›.head_suffix ‹_›⟩
    · mvcgen [Reader.group, branches, sequence]
      all_goals simp_all

/-! ## Whole patterns -/

theorem whole_reads : Reads t whole := by
  have nested := fun limit => (nested_reads (t := t) limit).1
  mvcgen [whole, nested, throw_reads, -Spec.throw_MonadExcept]
  -- both sets of classes were asked for in the text that has been read
  rename_i kept _ clash
  obtain ⟨ascii, unicode⟩ := Bool.and_eq_true_iff.mp clash
  exact ⟨kept.ascii ascii, kept.unicode unicode⟩

end Reader

open Reader in
/-- Reading a pattern stops only at a mistake in it, or at a limit that shows in its text. -/
theorem shows_of_read {t : Text} {f : Fault} (h : read t = .error f) : f.Shows t := by
  have within : Within t (start t).left (start t).asciiSet (start t).unicodeSet :=
    ⟨List.suffix_rfl, (fun h => nomatch h), (fun h => nomatch h)⟩
  have run := triple_iff.mp whole_reads (start t) within
  unfold read at h
  rcases hw : whole (start t) with e | r <;> rw [hw] at run
  · have stopped : whole.run (start t) = .error e := hw
    rw [stopped] at h
    cases e <;> cases h
    all_goals exact run
  · have ended : whole.run (start t) = .ok r := hw
    rw [ended] at h
    cases h

theorem shows_of_compile {t : Text} {f : Fault} (h : compile t = .error f) : f.Shows t := by
  unfold compile at h
  rcases hr : read t with e | r <;> rw [hr] at h
  · cases h
    exact shows_of_read hr
  · cases h

end Untrack.Pattern
