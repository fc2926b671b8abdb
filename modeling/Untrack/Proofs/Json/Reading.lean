/-
  Untrack.Proofs.Json.Reading — what reading a document gives. No object of a value that was read has two fields of
  one name (`read_distinct`), since a field whose name came before takes that field's place. A document is refused for
  a number too long only if the digits of that number stand in it (`read_longNumber`).

  Both go along with the reading: what is left after a part is an end of what was there before (`Scans`), so what is
  found in it is found in the whole.
-/

import Mathlib.Data.List.TakeWhile
import Untrack.Json.Reader
import Untrack.Proofs.Except

namespace Untrack.Json

/-- No object in the value has two fields of one name. -/
inductive Value.Distinct : Value → Prop
  | null : Distinct .null
  | bool (b : Bool) : Distinct (.bool b)
  | whole (n : Int) : Distinct (.whole n)
  | real (x : Binary64) : Distinct (.real x)
  | text (t : Text) : Distinct (.text t)
  | list {items : List Value} : (∀ v ∈ items, Distinct v) → Distinct (.list items)
  | object {fields : Fields} : fields.names.Nodup → (∀ f ∈ fields, Distinct f.2) → Distinct (.object fields)

theorem Fields.mem_of_get? {fields : Fields} {name : Text} {v : Value} (h : fields.get? name = some v) :
    (name, v) ∈ fields := by
  induction fields with
  | nil => cases h
  | cons f fields ih =>
    rw [get?, List.lookup_cons] at h
    by_cases same : name = f.1
    · subst same
      simp only [beq_self_eq_true, Option.some.injEq] at h
      exact h ▸ List.mem_cons_self
    · simp only [beq_eq_false_iff_ne.mpr same] at h
      exact List.mem_cons_of_mem _ (ih h)

theorem Value.Distinct.field {fields : Fields} {name : Text} {v : Value} (h : (Value.object fields).Distinct)
    (hv : fields.get? name = some v) : v.Distinct := by
  cases h with
  | object _ all => exact all _ (Fields.mem_of_get? hv)

theorem Value.Distinct.names {fields : Fields} (h : (Value.object fields).Distinct) : fields.names.Nodup := by
  cases h with
  | object names _ => exact names

/-- A run of so many digits, more than a number may have, stands in the text. -/
def LongRun (n : Nat) (t : Text) : Prop :=
  Numeral.digitLimit < n ∧ ∃ digits, digits <:+: t ∧ digits.length = n ∧ ∀ c ∈ digits, c.isDigit = true

theorem LongRun.mono {n : Nat} {s t : Text} (h : LongRun n s) (hs : s <:+ t) : LongRun n t := by
  obtain ⟨many, digits, within, length, all⟩ := h
  exact ⟨many, digits, within.trans hs.isInfix, length, all⟩

theorem Fields.mem_put {fields : Fields} {name : Text} {v : Value} {f : Text × Value} (h : f ∈ fields.put name v) :
    f ∈ fields ∨ f = (name, v) := by
  unfold put at h
  split at h
  · obtain ⟨g, hg, same⟩ := List.mem_map.mp h
    split at same
    · exact Or.inr same.symm
    · exact Or.inl (same ▸ hg)
  · rcases List.mem_append.mp h with h | h
    · exact Or.inl h
    · exact Or.inr (List.mem_singleton.mp h)

namespace Reader

variable {α β : Type} {P : α → Prop} {Q : β → Prop} {s t : Text}

/-- What is read satisfies `P` and what is left is an end of the text; a number too long stands in the text. -/
def Scans (P : α → Prop) (t : Text) (x : Except Stop (α × Rest)) : Prop :=
  match x with
  | .ok (a, r) => P a ∧ r.text <:+ t
  | .error (.longNumber n) => LongRun n t
  | .error (.problem _ _) => True

theorem Scans.mono {x : Except Stop (α × Rest)} (h : Scans P s x) (hs : s <:+ t) : Scans P t x := by
  rcases x with stop | ⟨a, r⟩
  · cases stop with
    | problem _ _ => trivial
    | longNumber n => exact LongRun.mono h hs
  · exact ⟨h.1, h.2.trans hs⟩

theorem scans_bind {x : Except Stop (α × Rest)} {k : α × Rest → Except Stop (β × Rest)} (hx : Scans P t x)
    (hk : ∀ a r, P a → Scans Q r.text (k (a, r))) : Scans Q t (x >>= k) := by
  rcases x with stop | ⟨a, r⟩
  · cases stop <;> exact hx
  · exact (hk a r hx.1).mono hx.2

/-! ## Texts -/

theorem skipSpace_suffix (r : Rest) : (skipSpace r).text <:+ r.text := List.dropWhile_suffix _

theorem drop_suffix (n : Nat) (r : Rest) : (drop n r).text <:+ r.text := List.drop_suffix _ _

theorem skipSpace_drop_suffix (n : Nat) (r : Rest) : (skipSpace (drop n r)).text <:+ r.text :=
  (skipSpace_suffix _).trans (drop_suffix n r)

/-- An escape by code unit is no number. -/
theorem unicodeEscape_ne_longNumber (offset : Nat) (t : Text) (n : Nat) :
    unicodeEscape offset t ≠ .error (.longNumber n) := by
  unfold unicodeEscape
  intro h
  by_cases short : t.length < 5
  · simp only [short, if_true] at h
    cases h
  simp only [short, if_false] at h
  rcases hu : fourHex? t with _ | u <;> simp only [hu] at h
  · cases h
  split at h
  · rename_i more _
    split at h
    · rcases hv : fourHex? more with _ | v <;> simp only [hv] at h
      · cases h
      · split at h <;> cases h
    · cases h
  · cases h

/-- Induction on the limit. -/
theorem textFrom_scans (start limit : Nat) (read : Text) (r : Rest) :
    Scans (fun _ => True) r.text (textFrom start limit read r) := by
  induction limit generalizing read r with
  | zero => trivial
  | succ limit ih =>
    obtain ⟨offset, t⟩ := r
    unfold textFrom
    split
    · trivial
    · exact ⟨trivial, List.suffix_cons _ _⟩
    · trivial
    · rename_i r
      rcases he : unicodeEscape (offset + 1) r with stop | ⟨c, n⟩
      · cases stop with
        | problem _ _ => trivial
        | longNumber n => exact absurd he (unicodeEscape_ne_longNumber _ _ _)
      · refine (ih _ _).mono ?_
        exact (List.drop_suffix _ _).trans ((List.suffix_cons _ _).trans (List.suffix_cons _ _))
    · split
      · exact (ih _ _).mono ((List.suffix_cons _ _).trans (List.suffix_cons _ _))
      · trivial
    · split
      · trivial
      · exact (ih _ _).mono (List.suffix_cons _ _)

theorem quotedText_scans (r : Rest) : Scans (fun _ => True) r.text (quotedText r) :=
  (textFrom_scans _ _ _ _).mono (drop_suffix 1 r)

/-! ## Numbers -/

theorem wholeDigits_starts (t : Text) : wholeDigits t <+: t := by
  unfold wholeDigits
  split
  · exact ⟨_, rfl⟩
  · exact List.takeWhile_prefix _

theorem isDigit_of_mem_wholeDigits {t : Text} {c : Char} (h : c ∈ wholeDigits t) : c.isDigit = true := by
  unfold wholeDigits at h
  split at h
  · rw [List.mem_singleton.mp h]
    rfl
  · exact List.mem_takeWhile_imp h

theorem number_scans (r : Rest) : Scans Value.Distinct r.text (number r) := by
  unfold number
  extract_lets negative t whole t1 part t2 n
  have ht : t <:+ r.text := by
    unfold t
    split
    · exact List.drop_suffix _ _
    · exact List.suffix_rfl
  split
  · trivial
  have ht2 : t2 <:+ r.text := by
    have ht1 : t1 <:+ r.text := (List.drop_suffix _ _).trans ht
    unfold t2
    split
    · exact ht1
    · exact (List.drop_suffix _ _).trans ht1
  rcases exponent t2 with ⟨e, size⟩
  dsimp only
  have left : t2.drop size <:+ r.text := (List.drop_suffix _ _).trans ht2
  split
  · split
    · refine ⟨‹_›, whole, ?_, rfl, fun c => isDigit_of_mem_wholeDigits⟩
      exact (wholeDigits_starts t).isInfix.trans ht.isInfix
    · exact ⟨.whole _, left⟩
  · exact ⟨.real _, left⟩

theorem scalar_scans (r : Rest) : Scans Value.Distinct r.text (scalar r) := by
  unfold scalar
  split
  · rename_i word v found
    have listed : (word, v) ∈ constants := List.mem_of_find?_eq_some found
    have distinct : v.Distinct := by
      simp only [constants, List.mem_cons, List.not_mem_nil, or_false, Prod.mk.injEq] at listed
      rcases listed with ⟨_, rfl⟩ | ⟨_, rfl⟩ | ⟨_, rfl⟩ | ⟨_, rfl⟩ | ⟨_, rfl⟩ | ⟨_, rfl⟩ <;> constructor
    exact ⟨distinct, drop_suffix _ _⟩
  · exact number_scans r

/-! ## Values -/

theorem fieldName_scans (r : Rest) : Scans (fun _ => True) r.text (fieldName r) := by
  unfold fieldName
  split
  · trivial
  refine scans_bind (quotedText_scans r) fun name r _ => ?_
  dsimp only
  split
  · trivial
  · exact ⟨trivial, ((skipSpace_suffix _).trans (drop_suffix _ _)).trans (skipSpace_suffix _)⟩

/-- The values, the fields and the items within a limit: induction on the limit, for all three at once. -/
theorem value_scans (limit : Nat) :
    (∀ r, Scans Value.Distinct r.text (value limit r)) ∧
      (∀ read r, read.names.Nodup → (∀ f ∈ read, f.2.Distinct) → Scans Value.Distinct r.text (fields limit read r)) ∧
      ∀ read r, (∀ v ∈ read, v.Distinct) → Scans Value.Distinct r.text (items limit read r) := by
  induction limit with
  | zero => exact ⟨fun _ => trivial, fun _ _ _ _ => trivial, fun _ _ _ => trivial⟩
  | succ limit ih =>
    obtain ⟨value, fields, items⟩ := ih
    refine ⟨fun r => ?_, fun read r hn hd => ?_, fun read r hd => ?_⟩
    · unfold Reader.value
      split
      · exact scans_bind (quotedText_scans r) fun t r _ => ⟨.text t, List.suffix_rfl⟩
      · have opened := skipSpace_drop_suffix 1 r
        dsimp only
        split
        · exact ⟨.object List.nodup_nil (fun _ h => nomatch h), (drop_suffix _ _).trans opened⟩
        · exact (fields [] _ List.nodup_nil fun _ h => nomatch h).mono opened
      · have opened := skipSpace_drop_suffix 1 r
        dsimp only
        split
        · exact ⟨.list (fun _ h => nomatch h), (drop_suffix _ _).trans opened⟩
        · exact (items [] _ fun _ h => nomatch h).mono opened
      · exact scalar_scans r
    · unfold Reader.fields
      refine scans_bind (fieldName_scans r) fun name r _ => scans_bind (value r) fun v r hv => ?_
      have names : (read.put name v).names.Nodup := Fields.nodup_put name v hn
      have distinct : ∀ f ∈ read.put name v, f.2.Distinct := by
        intro f hf
        rcases Fields.mem_put hf with h | rfl
        · exact hd f h
        · exact hv
      dsimp only
      split
      · exact ⟨.object names distinct, (drop_suffix _ _).trans (skipSpace_suffix _)⟩
      · exact (fields _ _ names distinct).mono ((skipSpace_drop_suffix _ _).trans (skipSpace_suffix _))
      · trivial
    · unfold Reader.items
      refine scans_bind (value r) fun v r hv => ?_
      have distinct : ∀ w ∈ v :: read, w.Distinct := by
        intro w hw
        rcases List.mem_cons.mp hw with rfl | hw
        · exact hv
        · exact hd w hw
      dsimp only
      split
      · exact ⟨.list fun w hw => distinct w (List.mem_reverse.mp hw), (drop_suffix _ _).trans (skipSpace_suffix _)⟩
      · exact (items _ _ distinct).mono ((skipSpace_drop_suffix _ _).trans (skipSpace_suffix _))
      · trivial

/-! ## Documents -/

theorem document_cases (t : Text) :
    (∃ v, document t = .ok v ∧ v.Distinct) ∨ (∃ n, document t = .error (.longNumber n) ∧ LongRun n t) ∨
      ∃ p offset, document t = .error (.problem p offset) := by
  unfold document
  split
  · exact Or.inr (Or.inr ⟨_, _, rfl⟩)
  have scanned := (value_scans (2 * t.length + 2)).1 (skipSpace ⟨0, t⟩)
  rcases hv : value (2 * t.length + 2) (skipSpace ⟨0, t⟩) with stop | ⟨v, r⟩ <;> rw [hv] at scanned
  · cases stop with
    | problem p offset => exact Or.inr (Or.inr ⟨p, offset, rfl⟩)
    | longNumber n => exact Or.inr (Or.inl ⟨n, rfl, scanned.mono (skipSpace_suffix _)⟩)
  · dsimp only [bind, Except.bind]
    split
    · exact Or.inl ⟨v, rfl, scanned.1⟩
    · exact Or.inr (Or.inr ⟨_, _, rfl⟩)

end Reader

/-- No object in a value that was read has two fields of one name. -/
theorem read_distinct {t : Text} {v : Value} (h : read t = .ok v) : v.Distinct := by
  unfold read at h
  rcases Reader.document_cases t with ⟨w, hw, distinct⟩ | ⟨n, hn, _⟩ | ⟨p, offset, hp⟩
  · rw [hw] at h
    cases h
    exact distinct
  · rw [hn] at h
    cases h
  · rw [hp] at h
    cases h

/-- The digits of a number that is too long stand in the document. -/
theorem read_longNumber {t : Text} {n : Nat} (h : read t = .error (.longNumber n)) : LongRun n t := by
  unfold read at h
  rcases Reader.document_cases t with ⟨w, hw, _⟩ | ⟨m, hm, run⟩ | ⟨p, offset, hp⟩
  · rw [hw] at h
    cases h
  · rw [hm] at h
    cases h
    exact run
  · rw [hp] at h
    cases h

/-- Bytes that were read are text in their encoding, and that was read. -/
theorem readBytes_ok {b : Bytes} {v : Value} (h : readBytes b = .ok v) :
    ∃ t, Bytes.decodeDetected b = .ok t ∧ read t = .ok v := by
  unfold readBytes at h
  split at h
  · exact ⟨_, ‹_›, h⟩
  · cases h

theorem readBytes_longNumber {b : Bytes} {n : Nat} (h : readBytes b = .error (.longNumber n)) :
    ∃ t, Bytes.decodeDetected b = .ok t ∧ LongRun n t := by
  unfold readBytes at h
  split at h
  · exact ⟨_, ‹_›, read_longNumber h⟩
  · cases h

end Untrack.Json
