/-
  Untrack.Proofs.Url.Percent — reading percent encoding makes a text shorter or leaves it as it is
  (`decode_shrinks`). A character is read from one byte or more, and so is a fault; an encoded byte takes three
  characters. So a text that keeps its length has nothing encoded in it, and ASCII is read as it stands.
-/

import Untrack.Proofs.Bytes.Utf8
import Untrack.Proofs.Text.Shrinks
import Untrack.Url.Percent

namespace Untrack

/-! ## Characters from bytes -/

namespace Bytes.Utf8

/-- A byte yields no more than a character or a fault, counting the character under way as one to come. -/
theorem step_length (position : Nat) (b : UInt8) (under : Option Pending) :
    (step position b under).1.length + (step position b under).2.toList.length ≤ 1 + under.toList.length := by
  have one : (first position b).1.length + (first position b).2.toList.length = 1 := by
    unfold first
    split <;> rfl
  cases under with
  | none => simpa [step] using Nat.le_of_eq one
  | some p =>
    unfold step
    dsimp only
    split
    · split <;> simp
    · simp
      omega

theorem scan_length (position : Nat) (under : Option Pending) (bs : Bytes) :
    (scan position under bs).length ≤ bs.length + under.toList.length := by
  induction bs generalizing position under with
  | nil => simp [scan]
  | cons b bs ih =>
    have here := step_length position b under
    have rest := ih (position + 1) (step position b under).2
    rw [scan, List.length_append, List.length_cons]
    omega

theorem decodeLossy_length (bs : Bytes) : (decodeLossy bs).length ≤ bs.length := by
  rw [decodeLossy, List.length_map]
  exact scan_length 0 none bs

theorem decodeLossy_encode (t : Text) : decodeLossy (encode t) = t := by
  rw [decodeLossy, scan_encode, List.map_map]
  exact List.map_id _

end Bytes.Utf8

namespace Url.Percent

/-! ## Bytes from characters -/

def plainByte (c : Char) : UInt8 := UInt8.ofNat c.toNat

/-- There are fewer bytes than characters, unless each character stands for itself. -/
theorem bytes_cases (t : Text) : bytes t = t.map plainByte ∨ (bytes t).length < t.length := by
  fun_induction bytes t with
  | case1 a b r x y _ _ ih =>
    right
    have : (bytes r).length ≤ r.length := by
      rcases ih with h | h
      · exact Nat.le_of_eq (by rw [h, List.length_map])
      · exact Nat.le_of_lt h
    simp only [List.length_cons]
    omega
  | case2 a b r _ ih =>
    rcases ih with h | h
    · left
      rw [h]
      rfl
    · right
      simpa using h
  | case3 c r _ ih =>
    rcases ih with h | h
    · left
      rw [h]
      rfl
    · right
      simpa using h
  | case4 => exact Or.inl rfl

theorem map_plainByte {t : Text} (h : ∀ c ∈ t, isAscii c = true) : t.map plainByte = Bytes.Utf8.encode t := by
  induction t with
  | nil => rfl
  | cons c r ih =>
    have ascii : c.val.toNat < 128 := by simpa [isAscii] using h c List.mem_cons_self
    have one : String.utf8EncodeChar c = [plainByte c] := by
      unfold String.utf8EncodeChar
      exact if_pos (Nat.le_of_lt_succ ascii)
    rw [List.map_cons, ih fun d hd => h d (List.mem_cons_of_mem _ hd)]
    show _ = String.utf8EncodeChar c ++ Bytes.Utf8.encode r
    rw [one]
    rfl

/-- A stretch of ASCII. -/
theorem stretch_shrinks {read : Text} (h : ∀ c ∈ read, isAscii c = true) : 
    Text.Shrinks read.reverse (stretch read) := by
  unfold stretch
  rcases bytes_cases read.reverse with e | shorter
  · left
    rw [e, map_plainByte fun c hc => h c (List.mem_reverse.mp hc), Bytes.Utf8.decodeLossy_encode]
  · exact Or.inr (Nat.lt_of_le_of_lt (Bytes.Utf8.decodeLossy_length _) shorter)

theorem decodeAfter_shrinks {read : Text} (h : ∀ c ∈ read, isAscii c = true) (t : Text) :
    Text.Shrinks (read.reverse ++ t) (decodeAfter read t) := by
  induction t generalizing read with
  | nil => simpa [decodeAfter] using stretch_shrinks h
  | cons c r ih =>
    unfold decodeAfter
    cases hc : isAscii c with
    | true =>
      have longer : ∀ d ∈ c :: read, isAscii d = true := fun d hd =>
        (List.mem_cons.mp hd).elim (fun e => e ▸ hc) (h d)
      simpa using ih longer
    | false =>
      have rest : Text.Shrinks (c :: r) (c :: decodeAfter [] r) :=
        (Text.Shrinks.refl [c]).append (ih (List.forall_mem_nil _))
      exact (stretch_shrinks h).append rest

/-- Reading percent encoding makes a text shorter or leaves it as it is. -/
theorem decode_shrinks (t : Text) : t.Shrinks (decode t) := decodeAfter_shrinks (List.forall_mem_nil _) t

end Url.Percent
end Untrack
