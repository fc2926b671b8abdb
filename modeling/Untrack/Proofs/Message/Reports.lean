/-
  Untrack.Proofs.Message.Reports — what is told of a link that cannot be cleaned is one line (`report_one_line`). Texts
  are quoted, with their line ends escaped. One is told as it stands, an authority with a hidden delimiter; it is a part
  of the URL without the characters that do not count, line ends among them.
-/

import Untrack.Proofs.Sanitizer.Faults
import Untrack.Proofs.Text.Cuts
import Untrack.Proofs.World.Published

namespace Untrack

/-! ## Quoted texts -/

namespace Text

theorem newline_not_mem_hexDigits (width n : Nat) : '\n' ∉ hexDigits width n := fun h => by
  have := isDigit_of_mem_hexDigits h
  cases this

theorem newline_not_mem_escapeChar {quote : Char} (hq : quote ≠ '\n') (c : Char) : '\n' ∉ escapeChar quote c := by
  unfold escapeChar
  split
  · rename_i h
    have other : c ≠ '\n' := by
      rintro rfl
      rcases h with h | h
      · exact hq h.symm
      · cases h
    simp [other.symm]
  split
  · decide
  split
  · decide
  rename_i other
  split
  · decide
  split
  · simpa using fun e => other e.symm
  split
  · simp [newline_not_mem_hexDigits]
  split <;> simp [newline_not_mem_hexDigits]

theorem newline_not_mem_quoted (t : Text) : '\n' ∉ t.quoted.toList := by
  have quote : quoteFor t ≠ '\n' := by
    unfold quoteFor
    split <;> decide
  rw [quoted, String.toList_ofList, quotedText]
  simp only [List.mem_cons, List.mem_append, List.mem_flatMap, not_or, not_exists, not_and]
  exact ⟨quote.symm, fun c _ => newline_not_mem_escapeChar quote c, quote.symm, List.not_mem_nil⟩

end Text

/-! ## Faults of a URL -/

namespace Url

theorem newline_not_mem_cleaned (t : Text) : '\n' ∉ cleaned t := fun h => by
  have := (List.mem_filter.mp h).2
  cases this

theorem splitScheme_subset (t : Text) : (splitScheme t).2 ⊆ t := by
  intro c h
  unfold splitScheme at h
  split at h
  · rename_i rest hr
    split at h
    · exact Text.mem_of_mem_after? (by rw [hr]; exact h)
    · exact h
  · exact h

theorem splitAuthority_subset (t : Text) : (splitAuthority t).1 ⊆ t := by
  intro c h
  unfold splitAuthority at h
  split at h
  · exact List.mem_cons_of_mem _ (List.mem_cons_of_mem _ ((List.takeWhile_sublist _).mem h))
  · cases h

/-- The authority of a URL is told as it stands, and only if it hides a delimiter. -/
theorem checkAuthority_ne_hidden {authority a : Text} : checkAuthority authority ≠ .error (.hiddenDelimiter a) := by
  have host : ∀ h, checkHost h ≠ .error (.hiddenDelimiter a) := by
    intro h e
    unfold checkHost at e
    split at e
    · split at e <;> cases e
    · split at e
      · cases e
      · split at e <;> cases e
  have brackets : checkBrackets authority ≠ .error (.hiddenDelimiter a) := by
    unfold checkBrackets
    dsimp only
    split
    · exact host _
    · split
      · exact nofun
      · split
        · exact host _
        · split
          · exact nofun
          · exact host _
  unfold checkAuthority
  dsimp only
  split
  · exact nofun
  · split
    · exact brackets
    · exact nofun

theorem checkHidden_error {authority : Text} {f : Fault} (h : checkHidden authority = .error f) :
    f = .hiddenDelimiter authority := by
  unfold checkHidden at h
  split at h <;> cases h
  rfl

theorem split_fault_one_line {url : Text} {f : Fault} (h : split url = .error f) : '\n' ∉ f.message.toList := by
  cases f with
  | hiddenDelimiter a =>
    have shown : '\n' ∉ a := by
      unfold split at h
      rcases except_bind_error.mp h with h | ⟨_, _, h⟩
      · exact absurd h checkAuthority_ne_hidden
      rcases except_bind_error.mp h with h | ⟨_, _, h⟩
      · cases checkHidden_error h
        exact fun hm => newline_not_mem_cleaned url (splitScheme_subset _ (splitAuthority_subset _ hm))
      · cases h
    simp [Fault.message, String.toList_append, String.toList_ofList, shown]
  | notAnAddress host => simp [Fault.message, String.toList_append, Text.newline_not_mem_quoted]
  | unmatchedBracket => decide
  | bracketedIPv4 => decide
  | badFutureAddress => decide

theorem refusal_one_line {url : Text} {reason : Refusal} (h : wellFormed url = .error reason) :
    '\n' ∉ reason.message.toList := by
  cases reason with
  | notWellFormed => decide
  | unreadable f =>
    unfold wellFormed at h
    rcases except_bind_error.mp h with h | ⟨_, _, h⟩
    · obtain ⟨g, hg, e⟩ := mapError_error.mp h
      cases e
      exact split_fault_one_line hg
    · split at h <;> cases h

end Url

theorem newline_not_mem_toString (n : Nat) : '\n' ∉ (toString n).toList := by
  intro h
  rw [Nat.toString_eq_repr, Nat.toList_repr] at h
  have digit : '\n'.isDigit = true := Nat.isDigit_of_mem_toDigits (by decide) (by decide) h
  exact absurd digit (by decide)

/-- A foreseen fault is told on one line. -/
theorem CleanFault.Foreseen.report_one_line {cap : Nat} {f : CleanFault} (h : f.Foreseen cap) :
    '\n' ∉ f.report.toList := by
  rcases h with ⟨url, reason, rfl, refused⟩ | ⟨url, rfl⟩
  · have told := Url.refusal_one_line refused
    have quoted := Text.newline_not_mem_quoted url
    show '\n' ∉ ("InvalidUrlError" ++ ": " ++ (reason.message ++ ": " ++ url.quoted)).toList
    simp [String.toList_append, told, quoted]
  · have digits := newline_not_mem_toString cap
    have quoted := Text.newline_not_mem_quoted url
    show '\n' ∉ ("RedirectLoopError" ++ ": " ++
      ("Redirect depth exceeded " ++ toString cap ++ " while resolving " ++ url.quoted)).toList
    simp only [String.toList_append, List.mem_append, digits, quoted]
    decide

end Untrack
