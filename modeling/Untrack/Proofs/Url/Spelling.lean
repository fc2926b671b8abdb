/-
  Untrack.Proofs.Url.Spelling — the spellings of a text in form data. Each character is written as it is, if it is not
  reserved, or as its UTF-8 bytes in percent encoding, with digits of either case; a space may be a plus sign
  (`Spells`). Whatever the spelling, what is read is the text (`decodeForm_of_spells`).

  A stretch of ASCII is only decoded when it ends, so the proof goes along the spelling with what the stretch has come
  to so far: its bytes are those of a text, whatever follows (`Completes`). Raw characters beyond ASCII end a stretch
  between two characters of the text, never inside one.
-/

import Untrack.Proofs.Url.Percent

namespace Untrack.Url.Percent

/-- Characters that stand for themselves only when they are percent-encoded. -/
def reserved : Text := ['%', '+', '&', '=', '#', '\t', '\r', '\n']

/-- Each byte is written as a percent sign and two hexadecimal digits, in either case. -/
inductive Escapes : Text → Bytes → Prop
  | nil : Escapes [] []
  | cons {high low : Char} {x y : Nat} {t : Text} {bs : Bytes} : hexValue? high = some x → hexValue? low = some y →
      Escapes t bs → Escapes ('%' :: high :: low :: t) (UInt8.ofNat (16 * x + y) :: bs)

/-- The first text is a spelling of the second. -/
inductive Spells : Text → Text → Prop
  | nil : Spells [] []
  | asItIs {c : Char} {s t : Text} : c ∉ reserved → Spells s t → Spells (c :: s) (c :: t)
  | escaped {c : Char} {e s t : Text} : Escapes e (String.utf8EncodeChar c) → Spells s t → Spells (e ++ s) (c :: t)
  | plus {s t : Text} : Spells s t → Spells ('+' :: s) (' ' :: t)

variable {e s t : Text} {bs : Bytes}

/-! ## Characters of a spelling -/

theorem hexValue?_range {c : Char} {x : Nat} (h : hexValue? c = some x) :
    (48 ≤ c.toNat ∧ c.toNat ≤ 57) ∨ (97 ≤ c.toNat ∧ c.toNat ≤ 102) ∨ (65 ≤ c.toNat ∧ c.toNat ≤ 70) := by
  have order : ∀ a b : Char, a ≤ b ↔ a.toNat ≤ b.toNat := fun _ _ => Iff.rfl
  simp only [hexValue?, order] at h
  split at h
  · exact Or.inl ‹_›
  split at h
  · exact Or.inr (Or.inl ‹_›)
  split at h
  · exact Or.inr (Or.inr ‹_›)
  · cases h

/-- Hexadecimal digits are ASCII and not reserved. -/
theorem of_hexValue? {c : Char} {x : Nat} (h : hexValue? c = some x) : isAscii c = true ∧ c ∉ reserved := by
  have range := hexValue?_range h
  refine ⟨by simp [isAscii]; omega, ?_⟩
  intro hc
  simp only [reserved, List.mem_cons, List.not_mem_nil, or_false] at hc
  rcases hc with rfl | rfl | rfl | rfl | rfl | rfl | rfl | rfl <;> simp at range

theorem Escapes.mem (h : Escapes e bs) {c : Char} (hc : c ∈ e) : c = '%' ∨ isAscii c = true ∧ c ∉ reserved := by
  induction h with
  | nil => cases hc
  | cons high low _ ih =>
    simp only [List.mem_cons] at hc
    rcases hc with rfl | rfl | rfl | hc
    · exact Or.inl rfl
    · exact Or.inr (of_hexValue? high)
    · exact Or.inr (of_hexValue? low)
    · exact ih hc

theorem Escapes.ascii (h : Escapes e bs) : ∀ c ∈ e, isAscii c = true := by
  intro c hc
  rcases h.mem hc with rfl | ⟨hc, _⟩
  · rfl
  · exact hc

/-- Of the reserved characters only the percent and the plus sign occur in a spelling. -/
theorem Spells.mem (h : Spells s t) {c : Char} (hc : c ∈ s) : c = '%' ∨ c = '+' ∨ c ∉ reserved := by
  induction h with
  | nil => cases hc
  | asItIs free _ ih =>
    rcases List.mem_cons.mp hc with rfl | hc
    · exact Or.inr (Or.inr free)
    · exact ih hc
  | escaped he _ ih =>
    rcases List.mem_append.mp hc with hc | hc
    · rcases he.mem hc with rfl | ⟨_, hc⟩
      · exact Or.inl rfl
      · exact Or.inr (Or.inr hc)
    · exact ih hc
  | plus _ ih =>
    rcases List.mem_cons.mp hc with rfl | hc
    · exact Or.inr (Or.inl rfl)
    · exact ih hc

theorem plusToSpace_of_not_reserved {c : Char} (h : c ∉ reserved) : plusToSpace c = c := by
  have : c ≠ '+' := by
    rintro rfl
    exact h (by decide)
  simp [plusToSpace, this]

theorem Escapes.map_plusToSpace (h : Escapes e bs) : e.map plusToSpace = e := by
  have fixed : ∀ c ∈ e, plusToSpace c = id c := by
    intro c hc
    rcases h.mem hc with rfl | ⟨_, hc⟩
    · rfl
    · exact plusToSpace_of_not_reserved hc
  rw [List.map_congr_left fixed, List.map_id]

/-! ## Reading a spelling -/

theorem bytes_cons {c : Char} (hc : c ≠ '%') (r : Text) : bytes (c :: r) = plainByte c :: bytes r := by
  simp [bytes, hc, plainByte]

theorem bytes_escapes (h : Escapes e bs) (r : Text) : bytes (e ++ r) = bs ++ bytes r := by
  induction h with
  | nil => rfl
  | cons high low _ ih =>
    simp only [List.cons_append, bytes, high, low, ih]

/-- What is read of a stretch has the bytes of a text, whatever follows it. -/
def Completes (read t : Text) : Prop := ∀ r, bytes (read.reverse ++ r) = Bytes.Utf8.encode t ++ bytes r

theorem Completes.nil : Completes [] [] := fun _ => rfl

theorem Completes.stretch {read : Text} (h : Completes read t) : stretch read = t := by
  have whole : bytes read.reverse = Bytes.Utf8.encode t := by simpa [bytes] using h []
  rw [Percent.stretch, whole, Bytes.Utf8.decodeLossy_encode]

theorem encode_append (a b : Text) : Bytes.Utf8.encode (a ++ b) = Bytes.Utf8.encode a ++ Bytes.Utf8.encode b :=
  List.flatMap_append

theorem Completes.push {read : Text} (h : Completes read t) {c : Char} (ascii : isAscii c = true) (hc : c ≠ '%') :
    Completes (c :: read) (t ++ [c]) := by
  intro r
  have one : [c].map plainByte = Bytes.Utf8.encode [c] := map_plainByte (by simpa using ascii)
  rw [List.reverse_cons, List.append_assoc, List.singleton_append, h, bytes_cons hc, encode_append, ← one]
  simp

theorem Completes.pushEscapes {read : Text} (h : Completes read t) {c : Char}
    (he : Escapes e (String.utf8EncodeChar c)) : Completes (e.reverse ++ read) (t ++ [c]) := by
  intro r
  rw [List.reverse_append, List.reverse_reverse, List.append_assoc, h, bytes_escapes he, encode_append]
  simp [Bytes.Utf8.encode]

theorem decodeAfter_append {read : Text} (h : ∀ c ∈ e, isAscii c = true) (r : Text) :
    decodeAfter read (e ++ r) = decodeAfter (e.reverse ++ read) r := by
  induction e generalizing read with
  | nil => rfl
  | cons c e ih =>
    rw [List.cons_append, decodeAfter, if_pos (h c List.mem_cons_self),
      ih fun d hd => h d (List.mem_cons_of_mem _ hd)]
    simp

/-- A spelling is read after a stretch that is complete: induction on the spelling. -/
theorem decodeAfter_of_spells (h : Spells s t) {read u : Text} (before : Completes read u) :
    decodeAfter read (s.map plusToSpace) = u ++ t := by
  induction h generalizing read u with
  | nil => simp [decodeAfter, before.stretch]
  | @asItIs c s t free _ ih =>
    have percent : c ≠ '%' := by
      rintro rfl
      exact free (by decide)
    rw [List.map_cons, plusToSpace_of_not_reserved free, decodeAfter]
    by_cases ascii : isAscii c = true
    · rw [if_pos ascii, ih (before.push ascii percent)]
      simp
    · rw [if_neg ascii, before.stretch, ih .nil]
      simp
  | escaped he _ ih =>
    rw [List.map_append, he.map_plusToSpace, decodeAfter_append he.ascii, ih (before.pushEscapes he)]
    simp
  | plus _ ih =>
    show decodeAfter (' ' :: read) _ = _
    rw [ih (before.push (by decide) (by decide))]
    simp

/-- Whatever the spelling, what is read is the text. -/
theorem decodeForm_of_spells (h : Spells s t) : decodeForm s = t := decodeAfter_of_spells h .nil

end Untrack.Url.Percent
