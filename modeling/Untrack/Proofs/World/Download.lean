/-
  Untrack.Proofs.World.Download — what a download does before anything is kept. A store that downloads and a
  round of the refresh loop begin alike: the rules are fetched, their hash is fetched and compared if the source
  asks for it, and the document is read (`Download.checked`). Up to there nothing but the server is touched
  (`checked_quiet`), and a document that passes holds the rules that were read from it (`checked_rules`). What is
  fetched in a session is what is fetched at once (`fetchInSession_eq`).
-/

import Untrack.Proofs.Except
import Untrack.Proofs.World.Job
import Untrack.Refresh

namespace Untrack.Download

/-- A document that passed its checks, and the rules in it. -/
def checked (s : Source) : Act (Text × Ruleset) := do
  let document ← rules s
  if s.verifies then
    let expected ← hash s
    Act.ofExcept ((verify document expected).mapError .fetch)
  let rules ← Ruleset.parse document
  return (document, rules)

/-- Checking a document only asks the server. -/
theorem checked_asked (s : Source) : Within World.Asked (checked s) := by
  have validate : ∀ document, Within World.Asked (do
      let rules ← Ruleset.parse document
      return (document, rules) : Act (Text × Ruleset)) := fun document =>
    within_bind (Ruleset.asked_parse document) fun _ => within_pure _
  refine within_bind (Act.asked_fetch _) fun document => ?_
  split
  · refine within_bind (within_bind (Act.asked_fetch _) fun _ => within_pure _) fun expected => ?_
    exact within_bind (Act.asked_ofExcept _) fun _ => validate document
  · exact validate document

theorem checked_quiet (s : Source) : (checked s).Quiet := Act.quiet_of_asked (checked_asked s)

/-- A document that is read after its other checks leaves the world alone and has the rules that come of it. -/
theorem read_ok {d document : Text} {rules : Ruleset} {w w' : World}
    (h : (do
      let rules ← Ruleset.parse d
      return (d, rules) : Act (Text × Ruleset)) w = (.ok (document, rules), w')) :
    d = document ∧ w' = w ∧ Ruleset.ofText document = .ok rules := by
  obtain ⟨r, m, hr, hp⟩ := bind_ok h
  cases hp
  rw [Ruleset.parse_run] at hr
  obtain ⟨outcome, same⟩ := Prod.mk.inj hr
  exact ⟨rfl, same.symm, mapError_ok.mp outcome⟩

/-- The rules of a checked document are those that reading it gives. -/
theorem checked_rules {s : Source} {document : Text} {rules : Ruleset} {w w' : World}
    (h : checked s w = (.ok (document, rules), w')) : Ruleset.ofText document = .ok rules := by
  obtain ⟨d, m, _, h⟩ := bind_ok h
  by_cases hv : s.verifies = true
  · simp only [hv, if_true] at h
    obtain ⟨_, _, _, h⟩ := bind_ok h
    obtain ⟨_, _, _, h⟩ := bind_ok h
    exact (read_ok h).2.2
  · simp only [hv, Bool.false_eq_true, if_false] at h
    exact (read_ok h).2.2

/-! ## In a session -/

/-- Whether the status is looked at before the body is there makes no difference to the text that is fetched. -/
theorem fetchInSession_eq : fetchInSession = fetch := by
  funext url w
  have whole : fetch url w = ((textOf url (w.ask url).1).mapError .fetch, (w.ask url).2) := rfl
  rw [whole, fetchInSession, bind_run, receive]
  rcases w.ask url with ⟨⟨status, body⟩ | reason, w'⟩
  · by_cases hs : status = 200
    · simp only [hs, textOf, if_true, ne_eq, not_true_eq_false, if_false]
      rw [Act.ofExcept_run]
      rcases Bytes.Utf8.decode body with _ | _ <;> rfl
    · simp only [hs, textOf, if_false, ne_eq, not_false_eq_true, if_true, error_mapError]
  · rfl

theorem rulesInSession_eq : rulesInSession = rules := by
  funext s
  rw [rulesInSession, rules, fetchInSession_eq]

theorem hashInSession_eq : hashInSession = hash := by
  funext s
  rw [hashInSession, hash, fetchInSession_eq]

end Download

namespace Refresh

/-- A round keeps a checked document. -/
theorem runOnce_eq (r : Refresh) :
    r.runOnce = do
      let (document, rules) ← Download.checked r.source
      Cache.writeText r.location document
      return ⟨rules.size, r.location.path⟩ := by
  unfold runOnce Download.checked
  rw [Download.rulesInSession_eq, Download.hashInSession_eq]
  by_cases hv : r.source.verifies = true <;> simp [hv]

end Refresh

namespace Store

/-- Keeps a document and remembers its rules for the time the cache then has. -/
def adopt (st : Store) (m : Meanwhile) (document : Text) (rules : Ruleset) : Job Edition := do
  Cache.writeText st.location document
  othersWrite m.writtenAfterWriting
  remember rules (← Cache.modified? st.location)

/-- A download keeps and remembers a checked document. -/
theorem download_eq (st : Store) (m : Meanwhile) :
    st.download m =
      (liftM (Download.checked st.source) : Job _) >>= fun (document, rules) => st.adopt m document rules := by
  unfold download Download.checked adopt
  by_cases hv : st.source.verifies = true <;> simp [hv, lift_bind, lift_map]

end Store
end Untrack
