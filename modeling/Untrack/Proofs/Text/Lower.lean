/-
  Untrack.Proofs.Text.Lower — a text that is stripped and put in lower case may be so again: if hexadecimal digits come
  of it the second time, they are what came the first time (`plainHash_of_digits`). Lower case makes neither capitals
  of ASCII nor white space, and nothing but a capital or a digit becomes a digit. The table of capitals is gone
  through run by run (`runs_pass`): a run moves as a whole, so its two ends tell enough.
-/

import Mathlib.Data.List.DropRight
import Untrack.Download

namespace Untrack

namespace Unicode

/-! ## Code points -/

/-- Code points between which no boundary lies are both in the set or both out of it. -/
theorem covers_congr {bs : List Nat} {m n : Nat} (h : ∀ b ∈ bs, b ≤ m ↔ b ≤ n) : covers bs m = covers bs n := by
  induction bs with
  | nil => rfl
  | cons b bs ih =>
    have here := h b List.mem_cons_self
    have rest := ih fun c hc => h c (List.mem_cons_of_mem _ hc)
    by_cases hb : b ≤ m
    · rw [covers_of_le bs hb, covers_of_le bs (here.mp hb), rest]
    · rw [covers_of_lt bs (Nat.not_le.mp hb), covers_of_lt bs (Nat.not_le.mp (mt here.mpr hb))]

/-- A run beyond ASCII moves past the hexadecimal digits, and over no boundary of white space. -/
theorem runs_pass : ∀ r ∈ lowerRuns, 128 ≤ r.last → 102 < r.first + r.shift ∧
    covers blankBounds (r.first + r.shift).toNat = false ∧
    ∀ b ∈ blankBounds, b ≤ r.first + r.shift ∨ r.last + r.shift < b := by
  decide +kernel

def isBlankAt (n : Nat) : Bool :=
  if n < 128 then (9 ≤ n && n ≤ 13) || (28 ≤ n && n ≤ 32) else covers blankBounds n

theorem lower_cases (n : Nat) : (65 ≤ n ∧ n ≤ 90 ∧ lower n = n + 32) ∨ (¬ (65 ≤ n ∧ n ≤ 90) ∧ lower n = n) ∨
    (128 ≤ n ∧ 102 < lower n ∧ covers blankBounds (lower n) = false) := by
  unfold lower
  split
  · split
    · exact Or.inl (by simp_all)
    · exact Or.inr (Or.inl (by simp_all))
  have beyond : 128 ≤ n := Nat.not_lt.mp ‹_›
  unfold move
  split
  · rename_i r hr
    have hn := List.find?_some hr
    simp only [CaseRun.has, Bool.and_eq_true, decide_eq_true_eq] at hn
    obtain ⟨⟨first, last⟩, _⟩ := hn
    obtain ⟨past, out, aside⟩ := runs_pass r (List.mem_of_find?_eq_some hr) (by omega)
    refine Or.inr (Or.inr ⟨beyond, ?_, ?_⟩)
    · unfold CaseRun.image
      omega
    · rw [← out]
      refine covers_congr fun b hb => ?_
      have := aside b hb
      unfold CaseRun.image
      omega
  · exact Or.inr (Or.inl ⟨by omega, rfl⟩)

theorem isBlankAt_lower {n : Nat} (h : isBlankAt n = false) : isBlankAt (lower n) = false := by
  rcases lower_cases n with ⟨low, high, hl⟩ | ⟨_, hl⟩ | ⟨_, past, out⟩
  · rw [hl, isBlankAt, if_pos (by omega)]
    simp
    omega
  · rwa [hl]
  · unfold isBlankAt
    split
    · simp
      omega
    · exact out

end Unicode

namespace Text
open Unicode

/-! ## Characters -/

theorem toNat_ofNat (n : Nat) : (Char.ofNat n).toNat = n ∨ (Char.ofNat n).toNat = 0 := by
  by_cases h : n.isValidChar
  · left
    rw [Char.ofNat, dif_pos h]
    rfl
  · right
    rw [Char.ofNat, dif_neg h]
    rfl

theorem isBlank_eq (c : Char) : isBlank c = isBlankAt c.toNat := rfl

theorem isBlank_ofNat {n : Nat} (h : isBlankAt n = false) : isBlank (Char.ofNat n) = false := by
  rw [isBlank_eq]
  rcases toNat_ofNat n with e | e <;> rw [e]
  · exact h
  · rfl

/-- Whether a character is a capital of ASCII. -/
def isCapital (c : Char) : Bool := 65 ≤ c.toNat && c.toNat ≤ 90

/-- Whether a character is a hexadecimal digit as these are written, in lower case. -/
def isDigit (c : Char) : Bool := (48 ≤ c.toNat && c.toNat ≤ 57) || (97 ≤ c.toNat && c.toNat ≤ 102)

/-- The lower case of a character holds no capitals of ASCII, and white space only for white space. -/
theorem of_mem_lowerChar {read rest : Text} {c d : Char} (h : d ∈ lowerChar read c rest) :
    isCapital d = false ∧ (isBlank c = false → isBlank d = false) := by
  unfold lowerChar at h
  split at h
  · rcases List.mem_cons.mp h with rfl | h
    · exact ⟨by decide, fun _ => by decide⟩
    · rw [List.mem_singleton.mp h]
      exact ⟨by decide, fun _ => by decide⟩
  split at h
  · rw [List.mem_singleton.mp h]
    split
    · exact ⟨by decide, fun _ => by decide⟩
    · exact ⟨by decide, fun _ => by decide⟩
  · rw [List.mem_singleton.mp h]
    refine ⟨?_, fun hc => isBlank_ofNat (isBlankAt_lower hc)⟩
    unfold isCapital
    rcases toNat_ofNat (Unicode.lower c.toNat) with e | e <;> rw [e]
    · rcases lower_cases c.toNat with ⟨_, _, hl⟩ | ⟨_, hl⟩ | ⟨_, past, _⟩
      · simp; omega
      · simp; omega
      · simp; omega
    · rfl

/-- What is no capital and becomes a digit is one. -/
theorem lowerChar_of_isDigit {read rest : Text} {c : Char} (h : isCapital c = false)
    (hd : ∀ d ∈ lowerChar read c rest, isDigit d = true) : lowerChar read c rest = [c] := by
  unfold lowerChar at hd ⊢
  split at hd
  · exact absurd (hd (Char.ofNat 0x307) (by simp)) (by decide)
  split at hd
  · have := hd _ (List.mem_singleton.mpr rfl)
    split at this
    · exact absurd this (by decide)
    · exact absurd this (by decide)
  rw [if_neg ‹_›, if_neg ‹_›]
  have digit := hd _ (List.mem_singleton.mpr rfl)
  have low : Unicode.lower c.toNat ≤ 102 := by
    unfold isDigit at digit
    rcases toNat_ofNat (Unicode.lower c.toNat) with e | e <;> rw [e] at digit
    · simp at digit
      omega
    · exact absurd digit (by decide)
  have same : Unicode.lower c.toNat = c.toNat := by
    unfold isCapital at h
    rcases lower_cases c.toNat with ⟨lo, hi, _⟩ | ⟨_, hl⟩ | ⟨_, past, _⟩
    · simp [lo, hi] at h
    · exact hl
    · omega
  rw [same, Char.ofNat_toNat]

/-- Hexadecimal digits are their own lower case. -/
theorem lowerChar_digit {read rest : Text} {c : Char} (h : isDigit c = true) : lowerChar read c rest = [c] := by
  have ascii : c.toNat ≤ 102 ∧ ¬ (65 ≤ c.toNat ∧ c.toNat ≤ 90) := by
    simp [isDigit] at h
    omega
  have same : Unicode.lower c.toNat = c.toNat := by
    rcases lower_cases c.toNat with ⟨lo, hi, _⟩ | ⟨_, hl⟩ | ⟨beyond, _⟩
    · exact absurd ⟨lo, hi⟩ ascii.2
    · exact hl
    · omega
  rw [lowerChar, if_neg (by omega), if_neg (by omega), same, Char.ofNat_toNat]

/-! ## Texts -/

theorem of_mem_lowerAfter {read t : Text} {d : Char} (h : d ∈ lowerAfter read t) : isCapital d = false := by
  induction t generalizing read with
  | nil => cases h
  | cons c r ih =>
    rcases List.mem_append.mp h with h | h
    · exact (of_mem_lowerChar h).1
    · exact ih h

theorem lowerAfter_of_isDigit {read t : Text} (h : ∀ c ∈ t, isCapital c = false)
    (hd : ∀ d ∈ lowerAfter read t, isDigit d = true) : lowerAfter read t = t := by
  induction t generalizing read with
  | nil => rfl
  | cons c r ih =>
    rw [lowerAfter] at hd ⊢
    rw [lowerChar_of_isDigit (h c List.mem_cons_self) fun d hm => hd d (List.mem_append_left _ hm),
      ih (fun c hc => h c (List.mem_cons_of_mem _ hc)) fun d hm => hd d (List.mem_append_right _ hm)]
    rfl

theorem lowerAfter_digits {read t : Text} (h : ∀ c ∈ t, isDigit c = true) : lowerAfter read t = t := by
  induction t generalizing read with
  | nil => rfl
  | cons c r ih =>
    rw [lowerAfter, lowerChar_digit (h c List.mem_cons_self), ih fun d hd => h d (List.mem_cons_of_mem _ hd)]
    rfl

/-- The lower case of a text ends in that of its last character. -/
theorem lowerAfter_append (read t : Text) (c : Char) :
    ∃ front before, lowerAfter read (t ++ [c]) = front ++ lowerChar before c [] := by
  induction t generalizing read with
  | nil => exact ⟨[], read, by simp [lowerAfter]⟩
  | cons d r ih =>
    obtain ⟨front, before, h⟩ := ih (d :: read)
    exact ⟨lowerChar read d (r ++ [c]) ++ front, before, by rw [List.cons_append, lowerAfter, h, List.append_assoc]⟩

theorem lowerChar_ne_nil (read : Text) (c : Char) (rest : Text) : lowerChar read c rest ≠ [] := by
  unfold lowerChar
  split
  · simp
  split <;> simp

/-! ## White space at the ends -/

variable {p : Char → Bool}

theorem trimmed_eq_self {t : Text} (first : ∀ c, t.head? = some c → p c = false)
    (last : ∀ c, t.getLast? = some c → p c = false) : trimmed p t = t := by
  have front : t.dropWhile p = t := by
    cases t with
    | nil => rfl
    | cons c r => exact List.dropWhile_cons_of_neg (by simp [first c rfl])
  have back : t.reverse.dropWhile p = t.reverse := by
    cases h : t.reverse with
    | nil => rfl
    | cons c r =>
      refine List.dropWhile_cons_of_neg ?_
      have : t.getLast? = some c := by rw [← List.head?_reverse, h]; rfl
      simp [last c this]
  rw [trimmed, front, back, List.reverse_reverse]

theorem head_dropWhile {t : Text} {c : Char} (h : (t.dropWhile p).head? = some c) : p c = false := by
  have := List.head?_dropWhile_not p t
  rw [h] at this
  simpa using this

theorem getLast_trimmed {t : Text} {c : Char} (h : (trimmed p t).getLast? = some c) : p c = false := by
  rw [trimmed, List.getLast?_reverse] at h
  exact head_dropWhile h

theorem head_trimmed {t : Text} {c : Char} (h : (trimmed p t).head? = some c) : p c = false := by
  -- what is cut off at the end leaves the start as it is, unless it takes all
  obtain ⟨cut, hs⟩ : trimmed p t <+: t.dropWhile p := List.rdropWhile_prefix p _
  cases ht : trimmed p t with
  | nil =>
    rw [ht] at h
    cases h
  | cons d r =>
    rw [ht] at h hs
    cases h
    exact head_dropWhile (t := t) (by rw [← hs]; rfl)

/-- Lower case leaves no white space at the ends of a stripped text. -/
theorem strip_lower_strip (t : Text) : strip (lower (strip t)) = lower (strip t) := by
  refine trimmed_eq_self ?_ ?_
  · intro d hd
    cases hs : strip t with
    | nil =>
      rw [hs] at hd
      cases hd
    | cons c r =>
      have first : isBlank c = false := head_trimmed (t := t) (by rw [← strip, hs]; rfl)
      rw [hs, lower, lowerAfter] at hd
      obtain ⟨e, es, he⟩ := List.exists_cons_of_ne_nil (lowerChar_ne_nil [] c r)
      rw [he] at hd
      cases hd
      exact (of_mem_lowerChar (he ▸ List.mem_cons_self)).2 first
  · intro d hd
    rcases List.eq_nil_or_concat (strip t) with hs | ⟨r, c, hs⟩
    · rw [hs] at hd
      cases hd
    · have last : isBlank c = false := getLast_trimmed (t := t) (by rw [← strip, hs]; simp)
      obtain ⟨front, before, he⟩ := lowerAfter_append [] r c
      rw [hs, List.concat_eq_append, lower, he, List.getLast?_append_of_ne_nil _ (lowerChar_ne_nil before c [])] at hd
      exact (of_mem_lowerChar (List.mem_of_getLast? hd)).2 last

end Text

/-- Digits that come of a hash taken twice as it is compared came of it the first time. -/
theorem Download.plainHash_of_digits {t : Text} (h : ∀ d ∈ plainHash (plainHash t), Text.isDigit d = true) :
    plainHash (plainHash t) = plainHash t := by
  unfold plainHash at h ⊢
  rw [Text.strip_lower_strip] at h ⊢
  exact Text.lowerAfter_of_isDigit (fun c hc => Text.of_mem_lowerAfter hc) h

/-- Digits that come of a hash as it is compared stay as they are. -/
theorem Download.plainHash_of_isDigit {t : Text} (h : ∀ d ∈ plainHash t, Text.isDigit d = true) :
    plainHash (plainHash t) = plainHash t := by
  unfold plainHash at h ⊢
  rw [Text.strip_lower_strip]
  exact Text.lowerAfter_digits h

end Untrack
