/-
  Untrack.Proofs.World.Published — documents that passed all checks came from the server. Content is published, in
  the exchanges made so far, if one of them brought these very bytes as the rules, the rules in them can be read, and
  the next one brought their hash if the source is verified (`Source.Published`). A checked document is published
  once its checks are over (`checked_published`): what is written of it again is to the byte what was read
  (`encode_of_decode`), and the digest it is compared with is that of the response itself, although the comparison
  strips it and puts it in lower case a second time (`plainHash_of_digits`).
-/

import Untrack.Proofs.Bytes.Utf8
import Untrack.Proofs.Except
import Untrack.Proofs.Text.Lower
import Untrack.Proofs.World.Download

namespace Untrack

/-- Among the exchanges is one that brought the content as rules that can be read; if the source is verified, the one
right after it brought the digest of the content, with white space around it and in either case. -/
def Source.Published (s : Source) (exchanges : List Exchange) (content : Bytes) : Prop :=
  ∃ before after, exchanges = before ++ ⟨s.rulesUrl, .reply 200 content⟩ :: after ∧
    (∃ document rules, Bytes.Utf8.decode content = .ok document ∧ Ruleset.ofText document = .ok rules) ∧
    (s.verifies = true → ∃ body hash later, after = ⟨s.hashUrl, .reply 200 body⟩ :: later ∧
      Bytes.Utf8.decode body = .ok hash ∧ Bytes.sha256 content = Text.lower (Text.strip hash))

theorem Source.Published.mono {s : Source} {exchanges exchanges' : List Exchange} {content : Bytes}
    (h : s.Published exchanges content) (more : exchanges <+: exchanges') : s.Published exchanges' content := by
  obtain ⟨before, after, rfl, read, verified⟩ := h
  obtain ⟨rest, rfl⟩ := more
  refine ⟨before, after ++ rest, by simp, read, fun hv => ?_⟩
  obtain ⟨body, hash, later, rfl, hb, same⟩ := verified hv
  exact ⟨body, hash, later ++ rest, rfl, hb, same⟩

/-! ## Digests -/

theorem isDigit_hexDigit : ∀ n < 16, Text.isDigit (hexDigit n) = true := by decide

theorem isDigit_of_mem_hexDigits {width n : Nat} {d : Char} (h : d ∈ hexDigits width n) : Text.isDigit d = true := by
  induction width generalizing n with
  | zero => cases h
  | succ width ih =>
    rcases List.mem_append.mp h with h | h
    · exact ih h
    · rw [List.mem_singleton.mp h]
      exact isDigit_hexDigit _ (Nat.mod_lt _ (by decide))

theorem isDigit_of_mem_sha256 {message : Bytes} {d : Char} (h : d ∈ Bytes.sha256 message) : Text.isDigit d = true := by
  obtain ⟨_, _, hd⟩ := List.mem_flatMap.mp h
  exact isDigit_of_mem_hexDigits hd

namespace Download

/-! ## Responses -/

theorem textOf_ok {url : Text} {r : Response} {t : Text} (h : textOf url r = .ok t) :
    ∃ body, r = .reply 200 body ∧ Bytes.Utf8.decode body = .ok t := by
  unfold textOf at h
  split at h
  · cases h
  · split at h
    · subst ‹_ = (200 : Int)›
      exact ⟨_, rfl, mapError_ok.mp h⟩
    · cases h

/-- A text that was fetched is that of the last exchange. -/
theorem fetch_ok {url t : Text} {w w' : World} (h : fetch url w = (.ok t, w')) :
    ∃ body, Bytes.Utf8.decode body = .ok t ∧ w'.exchanges = w.exchanges ++ [⟨url, .reply 200 body⟩] := by
  have outcome : (textOf url (w.server.answer url).1).mapError Fault.fetch = .ok t := congrArg Prod.fst h
  have after : w' = (w.ask url).2 := (congrArg Prod.snd h).symm
  obtain ⟨body, hr, hb⟩ := textOf_ok (mapError_ok.mp outcome)
  refine ⟨body, hb, ?_⟩
  rw [after, World.ask, ← hr]

theorem hash_ok {s : Source} {expected : Text} {w w' : World} (h : hash s w = (.ok expected, w')) :
    ∃ body t, Bytes.Utf8.decode body = .ok t ∧ expected = plainHash t ∧
      w'.exchanges = w.exchanges ++ [⟨s.hashUrl, .reply 200 body⟩] := by
  obtain ⟨t, m, hf, hp⟩ := bind_ok h
  cases hp
  obtain ⟨body, hb, exchanged⟩ := fetch_ok hf
  exact ⟨body, t, hb, rfl, exchanged⟩

/-- A document that is verified has the digest it is compared with. -/
theorem sha256_of_verify {document t : Text} (h : verify document (plainHash t) = .ok ()) :
    hashOf document = plainHash t := by
  unfold verify at h
  split at h
  · have same : hashOf document = plainHash (plainHash t) := ‹_›
    rw [same]
    refine plainHash_of_digits fun d hd => ?_
    rw [← same] at hd
    exact isDigit_of_mem_sha256 hd
  · cases h

/-! ## Checked documents -/

/-- A checked document is published once its checks are over. -/
theorem checked_published {s : Source} {document : Text} {rules : Ruleset} {w w' : World}
    (h : checked s w = (.ok (document, rules), w')) : s.Published w'.exchanges (Bytes.Utf8.encode document) := by
  have readable : ∃ document' rules, Bytes.Utf8.decode (Bytes.Utf8.encode document) = .ok document' ∧
      Ruleset.ofText document' = .ok rules :=
    ⟨document, rules, Bytes.Utf8.decode_encode document, checked_rules h⟩
  obtain ⟨d, fetched, hd, h⟩ := bind_ok h
  obtain ⟨content, hc, exchanged⟩ := fetch_ok hd
  have same : Bytes.Utf8.encode d = content := Bytes.Utf8.encode_of_decode hc
  by_cases hv : s.verifies = true
  · simp only [hv, if_true] at h
    obtain ⟨expected, hashed, he, h⟩ := bind_ok h
    obtain ⟨⟨⟩, verified, hverify, h⟩ := bind_ok h
    obtain ⟨rfl, rfl, _⟩ := read_ok h
    obtain ⟨body, t, hb, rfl, exchanged'⟩ := hash_ok he
    have outcome : (verify d (plainHash t)).mapError Fault.fetch = .ok () := congrArg Prod.fst hverify
    have asked : hashed = w' := congrArg Prod.snd hverify
    refine ⟨w.exchanges, [⟨s.hashUrl, .reply 200 body⟩], ?_, readable, fun _ => ⟨body, t, [], rfl, hb, ?_⟩⟩
    · rw [← asked, exchanged', exchanged, same]
      simp
    · exact sha256_of_verify (mapError_ok.mp outcome)
  · simp only [hv, Bool.false_eq_true, if_false] at h
    obtain ⟨rfl, rfl, _⟩ := read_ok h
    exact ⟨w.exchanges, [], by rw [exchanged, same], readable, fun h => absurd h hv⟩

end Download
end Untrack
