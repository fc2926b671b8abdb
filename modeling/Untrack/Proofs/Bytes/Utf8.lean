/-
  Untrack.Proofs.Bytes.Utf8 — text put in UTF-8 is read back as it was (`decode_encode`), and bytes that are read as a
  text are those it is put in (`encode_of_decode`). Characters are encoded in one to four bytes; each length is read by
  a lead byte and the tails that it is owed (`lead_two` to `scan_last`), and a character read without a fault had just
  these bytes (`lead_cases` to `first_of_scan`).
-/

import Untrack.Bytes.Utf8

namespace Untrack.Bytes.Utf8

theorem toNat_byte {n : Nat} (h : n < 256) : (UInt8.ofNat n).toNat = n := UInt8.toNat_ofNat_of_lt h

/-! ## Lead bytes -/

theorem lead_one {n : Nat} (h : n < 0x80) : lead (UInt8.ofNat n) = .whole (Char.ofNat n) := by
  unfold lead
  rw [toNat_byte (by omega)]
  exact if_pos h

/-- Two bytes start at C2: below it they would be overlong. -/
theorem lead_two {n : Nat} (h : 2 ≤ n) (h' : n < 0x20) : lead (UInt8.ofNat (n + 0xC0)) = .opens 1 0x80 0xBF n := by
  unfold lead
  rw [toNat_byte (by omega)]
  dsimp only
  rw [if_neg (by omega), if_neg (by omega), if_pos (by omega), Nat.add_sub_cancel]

theorem lead_three {n : Nat} (h : n < 0x10) :
    lead (UInt8.ofNat (n + 0xE0)) = .opens 2 (if n = 0 then 0xA0 else 0x80) (if n = 13 then 0x9F else 0xBF) n := by
  unfold lead
  rw [toNat_byte (by omega)]
  dsimp only
  rw [if_neg (by omega), if_neg (by omega), if_neg (by omega), if_pos (by omega), Nat.add_sub_cancel]
  simp only [Nat.add_eq_right, Nat.reduceEqDiff]

theorem lead_four {n : Nat} (h : n < 5) :
    lead (UInt8.ofNat (n + 0xF0)) = .opens 3 (if n = 0 then 0x90 else 0x80) (if n = 4 then 0x8F else 0xBF) n := by
  unfold lead
  rw [toNat_byte (by omega)]
  dsimp only
  rw [if_neg (by omega), if_neg (by omega), if_neg (by omega), if_neg (by omega), if_pos (by omega),
    Nat.add_sub_cancel]
  simp only [Nat.add_eq_right, Nat.reduceEqDiff]

/-! ## Reading one byte -/

theorem scan_whole {b : UInt8} {c : Char} (h : lead b = .whole c) (position : Nat) (r : Bytes) :
    scan position none (b :: r) = .ok c :: scan (position + 1) none r := by
  simp [scan, step, first, h]

theorem scan_opens {b : UInt8} {owed low high bits : Nat} (h : lead b = .opens owed low high bits) (position : Nat)
    (r : Bytes) :
    scan position none (b :: r) = scan (position + 1) (some ⟨b, position, 1, owed, low, high, bits⟩) r := by
  simp [scan, step, first, h]

variable {l : UInt8} {start count owed low high bits n : Nat}

theorem scan_tail (hn : n < 0x40) (hl : low ≤ n + 0x80) (hh : n + 0x80 ≤ high) (position : Nat) (r : Bytes) :
    scan position (some ⟨l, start, count, owed + 2, low, high, bits⟩) (UInt8.ofNat (n + 0x80) :: r) =
      scan (position + 1) (some ⟨l, start, count + 1, owed + 1, 0x80, 0xBF, bits * 64 + n⟩) r := by
  have small : (n + 0x80) % 256 = n + 0x80 := by omega
  simp [scan, step, Pending.accepts, Pending.push, small, hl, hh]

theorem scan_last (hn : n < 0x40) (hl : low ≤ n + 0x80) (hh : n + 0x80 ≤ high) (position : Nat) (r : Bytes) :
    scan position (some ⟨l, start, count, 1, low, high, bits⟩) (UInt8.ofNat (n + 0x80) :: r) =
      .ok (Char.ofNat (bits * 64 + n)) :: scan (position + 1) none r := by
  have small : (n + 0x80) % 256 = n + 0x80 := by omega
  simp [scan, step, Pending.accepts, Pending.push, small, hl, hh]

/-! ## Reading one character -/

theorem scan_encodeChar (c : Char) (position : Nat) (r : Bytes) :
    ∃ next, scan position none (String.utf8EncodeChar c ++ r) = .ok c :: scan next none r := by
  have valid : c.val.toNat < 0xD800 ∨ 0xDFFF < c.val.toNat ∧ c.val.toNat < 0x110000 := c.valid
  have back : Char.ofNat c.val.toNat = c := Char.ofNat_toNat c
  unfold String.utf8EncodeChar
  generalize c.val.toNat = v at valid back ⊢
  dsimp only
  split
  · refine ⟨position + 1, ?_⟩
    rw [List.singleton_append, scan_whole (lead_one (by omega)), back]
  split
  · refine ⟨position + 2, ?_⟩
    rw [List.cons_append, List.singleton_append, scan_opens (lead_two (by omega) (by omega)),
      scan_last (by omega) (by omega) (by omega), show v / 64 % 0x20 * 64 + v % 0x40 = v by omega, back]
  split
  · refine ⟨position + 3, ?_⟩
    rw [List.cons_append, List.cons_append, List.singleton_append, scan_opens (lead_three (by omega)),
      scan_tail (by omega) (by split <;> omega) (by split <;> omega), scan_last (by omega) (by omega) (by omega),
      show (v / 4096 % 0x10 * 64 + v / 64 % 0x40) * 64 + v % 0x40 = v by omega, back]
  · refine ⟨position + 4, ?_⟩
    rw [List.cons_append, List.cons_append, List.cons_append, List.singleton_append,
      scan_opens (lead_four (by omega)), scan_tail (by omega) (by split <;> omega) (by split <;> omega),
      scan_tail (by omega) (by omega) (by omega), scan_last (by omega) (by omega) (by omega),
      show ((v / 262144 % 0x08 * 64 + v / 4096 % 0x40) * 64 + v / 64 % 0x40) * 64 + v % 0x40 = v by omega, back]

theorem scan_encode (t : Text) (position : Nat) : scan position none (encode t) = t.map .ok := by
  induction t generalizing position with
  | nil => rfl
  | cons c t ih =>
    obtain ⟨next, h⟩ := scan_encodeChar c position (encode t)
    rw [List.map_cons, ← ih next, ← h]
    rfl

theorem mapM_ok (t : Text) : (t.map Except.ok).mapM id = (.ok t : Except Fault Text) := by
  induction t with
  | nil => rfl
  | cons c t ih =>
    rw [List.map_cons, List.mapM_cons, ih]
    rfl

/-- Text put in UTF-8 is read back. -/
theorem decode_encode (t : Text) : decode (encode t) = .ok t := by
  rw [decode, scan_encode, mapM_ok]

/-! ## What was read -/

theorem val_ofNat {n : Nat} (h : n < 0xD800 ∨ 0xDFFF < n ∧ n < 0x110000) : (Char.ofNat n).val.toNat = n := by
  have valid : n.isValidChar := h
  rw [Char.ofNat, dif_pos valid]
  rfl

theorem byte_eq {n : Nat} {b : UInt8} (h : n = b.toNat) : UInt8.ofNat n = b := by rw [h, UInt8.ofNat_toNat]

theorem encodeChar_one {b : UInt8} (h : b.toNat < 0x80) : String.utf8EncodeChar (Char.ofNat b.toNat) = [b] := by
  unfold String.utf8EncodeChar
  rw [val_ofNat (by omega)]
  dsimp only
  rw [if_pos (by omega), byte_eq rfl]

variable {b b₁ b₂ b₃ : UInt8}

theorem encodeChar_two (h : 0xC2 ≤ b.toNat ∧ b.toNat < 0xE0) (h₁ : 0x80 ≤ b₁.toNat ∧ b₁.toNat ≤ 0xBF) :
    String.utf8EncodeChar (Char.ofNat ((b.toNat - 0xC0) * 64 + (b₁.toNat - 0x80))) = [b, b₁] := by
  unfold String.utf8EncodeChar
  rw [val_ofNat (by omega)]
  dsimp only
  rw [if_neg (by omega), if_pos (by omega), byte_eq (b := b) (by omega), byte_eq (b := b₁) (by omega)]

/-- No overlong forms and no surrogates, as the first tail is kept out of their range. -/
theorem encodeChar_three (h : 0xE0 ≤ b.toNat ∧ b.toNat < 0xF0) (h₁ : 0x80 ≤ b₁.toNat ∧ b₁.toNat ≤ 0xBF)
    (long : b.toNat = 0xE0 → 0xA0 ≤ b₁.toNat) (surrogate : b.toNat = 0xED → b₁.toNat ≤ 0x9F)
    (h₂ : 0x80 ≤ b₂.toNat ∧ b₂.toNat ≤ 0xBF) :
    String.utf8EncodeChar (Char.ofNat (((b.toNat - 0xE0) * 64 + (b₁.toNat - 0x80)) * 64 + (b₂.toNat - 0x80))) =
      [b, b₁, b₂] := by
  unfold String.utf8EncodeChar
  rw [val_ofNat (by omega)]
  dsimp only
  rw [if_neg (by omega), if_neg (by omega), if_pos (by omega), byte_eq (b := b) (by omega),
    byte_eq (b := b₁) (by omega), byte_eq (b := b₂) (by omega)]

theorem encodeChar_four (h : 0xF0 ≤ b.toNat ∧ b.toNat < 0xF5) (h₁ : 0x80 ≤ b₁.toNat ∧ b₁.toNat ≤ 0xBF)
    (long : b.toNat = 0xF0 → 0x90 ≤ b₁.toNat) (past : b.toNat = 0xF4 → b₁.toNat ≤ 0x8F)
    (h₂ : 0x80 ≤ b₂.toNat ∧ b₂.toNat ≤ 0xBF) (h₃ : 0x80 ≤ b₃.toNat ∧ b₃.toNat ≤ 0xBF) :
    String.utf8EncodeChar (Char.ofNat
      ((((b.toNat - 0xF0) * 64 + (b₁.toNat - 0x80)) * 64 + (b₂.toNat - 0x80)) * 64 + (b₃.toNat - 0x80))) =
      [b, b₁, b₂, b₃] := by
  unfold String.utf8EncodeChar
  rw [val_ofNat (by omega)]
  dsimp only
  rw [if_neg (by omega), if_neg (by omega), if_neg (by omega), byte_eq (b := b) (by omega),
    byte_eq (b := b₁) (by omega), byte_eq (b := b₂) (by omega), byte_eq (b := b₃) (by omega)]

/-- What a lead byte says, and which bytes may follow it. -/
theorem lead_cases (b : UInt8) :
    (b.toNat < 0x80 ∧ lead b = .whole (Char.ofNat b.toNat)) ∨ lead b = .none ∨
      ((0xC2 ≤ b.toNat ∧ b.toNat < 0xE0) ∧ lead b = .opens 1 0x80 0xBF (b.toNat - 0xC0)) ∨
      ((0xE0 ≤ b.toNat ∧ b.toNat < 0xF0) ∧ ∃ low high, lead b = .opens 2 low high (b.toNat - 0xE0) ∧
        (0x80 ≤ low ∧ high ≤ 0xBF) ∧ (b.toNat = 0xE0 → 0xA0 ≤ low) ∧ (b.toNat = 0xED → high ≤ 0x9F)) ∨
      ((0xF0 ≤ b.toNat ∧ b.toNat < 0xF5) ∧ ∃ low high, lead b = .opens 3 low high (b.toNat - 0xF0) ∧
        (0x80 ≤ low ∧ high ≤ 0xBF) ∧ (b.toNat = 0xF0 → 0x90 ≤ low) ∧ (b.toNat = 0xF4 → high ≤ 0x8F)) := by
  unfold lead
  dsimp only
  split
  · exact Or.inl ⟨‹_›, rfl⟩
  split
  · exact Or.inr (Or.inl rfl)
  split
  · exact Or.inr (Or.inr (Or.inl ⟨⟨by omega, ‹_›⟩, rfl⟩))
  split
  · refine Or.inr (Or.inr (Or.inr (Or.inl ⟨⟨by omega, ‹_›⟩, _, _, rfl, ?_⟩)))
    split <;> split <;> omega
  split
  · refine Or.inr (Or.inr (Or.inr (Or.inr ⟨⟨by omega, ‹_›⟩, _, _, rfl, ?_⟩)))
    split <;> split <;> omega
  · exact Or.inr (Or.inl rfl)

variable {l : UInt8} {start count owed low high bits position : Nat} {bs : Bytes} {t : Text}

/-- Inside a character, and without faults, the next byte is one that it is owed. -/
theorem scan_under {p : Pending} (h : scan position (some p) bs = t.map .ok) :
    ∃ b r, bs = b :: r ∧ (p.low ≤ b.toNat ∧ b.toNat ≤ p.high) ∧ p.accepts b = true := by
  cases bs with
  | nil => cases t <;> simp [scan] at h
  | cons b r =>
    cases ha : p.accepts b with
    | false => cases t <;> simp [scan, step, ha] at h
    | true => exact ⟨b, r, rfl, by simpa [Pending.accepts] using ha, ha⟩

theorem tail_of_scan (h : scan position (some ⟨l, start, count, owed + 2, low, high, bits⟩) bs = t.map .ok) :
    ∃ b r, bs = b :: r ∧ (low ≤ b.toNat ∧ b.toNat ≤ high) ∧
      scan (position + 1) (some ⟨l, start, count + 1, owed + 1, 0x80, 0xBF, bits * 64 + (b.toNat - 0x80)⟩) r =
        t.map .ok := by
  obtain ⟨b, r, rfl, bounds, ha⟩ := scan_under h
  exact ⟨b, r, rfl, bounds, by simpa [scan, step, ha, Pending.push] using h⟩

theorem last_of_scan (h : scan position (some ⟨l, start, count, 1, low, high, bits⟩) bs = t.map .ok) :
    ∃ b r t', bs = b :: r ∧ (low ≤ b.toNat ∧ b.toNat ≤ high) ∧
      t = Char.ofNat (bits * 64 + (b.toNat - 0x80)) :: t' ∧ scan (position + 1) none r = t'.map .ok := by
  obtain ⟨b, r, rfl, bounds, ha⟩ := scan_under h
  cases t with
  | nil => simp [scan, step, ha] at h
  | cons c t' =>
    simp only [scan, step, ha, if_true, List.singleton_append, List.map_cons, List.cons.injEq, Except.ok.injEq] at h
    exact ⟨b, r, t', rfl, bounds, by rw [← h.1]; rfl, h.2⟩

/-- Between characters, and without faults, the bytes are those of a character and of others after it. -/
theorem first_of_scan (h : scan position none (b :: bs) = t.map .ok) :
    ∃ c r next t', t = c :: t' ∧ b :: bs = String.utf8EncodeChar c ++ r ∧ scan next none r = t'.map .ok := by
  rcases lead_cases b with ⟨hb, hl⟩ | hl | ⟨hb, hl⟩ | ⟨hb, low, high, hl, hb', long, surrogate⟩ |
    ⟨hb, low, high, hl, hb', long, past⟩
  · rw [scan_whole hl] at h
    cases t with
    | nil => cases h
    | cons c t' =>
      simp only [List.map_cons, List.cons.injEq, Except.ok.injEq] at h
      exact ⟨_, bs, _, t', rfl, by rw [← h.1, encodeChar_one hb]; rfl, h.2⟩
  · cases t <;> simp [scan, step, first, hl] at h
  · rw [scan_opens hl] at h
    obtain ⟨b₁, r, t', rfl, h₁, ht, rest⟩ := last_of_scan h
    exact ⟨_, r, _, t', ht, by rw [encodeChar_two hb h₁]; rfl, rest⟩
  · rw [scan_opens hl] at h
    obtain ⟨b₁, r, rfl, h₁, h⟩ := tail_of_scan h
    obtain ⟨b₂, r, t', rfl, h₂, ht, rest⟩ := last_of_scan h
    have inside : 0x80 ≤ b₁.toNat ∧ b₁.toNat ≤ 0xBF := by omega
    have read := encodeChar_three hb inside (by omega) (by omega) h₂
    exact ⟨_, r, _, t', ht, by rw [read]; rfl, rest⟩
  · rw [scan_opens hl] at h
    obtain ⟨b₁, r, rfl, h₁, h⟩ := tail_of_scan h
    obtain ⟨b₂, r, rfl, h₂, h⟩ := tail_of_scan h
    obtain ⟨b₃, r, t', rfl, h₃, ht, rest⟩ := last_of_scan h
    have inside : 0x80 ≤ b₁.toNat ∧ b₁.toNat ≤ 0xBF := by omega
    have read := encodeChar_four hb inside (by omega) (by omega) h₂ h₃
    exact ⟨_, r, _, t', ht, by rw [read]; rfl, rest⟩

/-- Bytes that are read without a fault are those of the text they are read as: induction on the text. -/
theorem encode_of_scan (h : scan position none bs = t.map .ok) : encode t = bs := by
  induction t generalizing position bs with
  | nil =>
    cases bs with
    | nil => rfl
    | cons b bs =>
      obtain ⟨_, _, _, _, e, _⟩ := first_of_scan h
      cases e
  | cons c t ih =>
    cases bs with
    | nil => cases h
    | cons b bs =>
      obtain ⟨d, r, next, t', ht, hb, rest⟩ := first_of_scan h
      obtain ⟨rfl, rfl⟩ := List.cons.inj ht
      rw [hb, ← ih rest]
      rfl

theorem map_ok_of_mapM {xs : List (Except Fault Char)} (h : xs.mapM id = .ok t) : xs = t.map .ok := by
  induction xs generalizing t with
  | nil =>
    cases h
    rfl
  | cons x xs ih =>
    rw [List.mapM_cons] at h
    rcases x with f | c
    · cases h
    rcases hr : xs.mapM id with f | r <;> rw [hr] at h <;> cases h
    rw [ih hr]
    rfl

/-- The text that bytes are read as is put in UTF-8 as just these bytes. -/
theorem encode_of_decode (h : decode bs = .ok t) : encode t = bs := encode_of_scan (map_ok_of_mapM h)

end Untrack.Bytes.Utf8
