/-
  Untrack.Proofs.Ruleset.Faults — why a document is refused. The fault that its reading ends in is there to be found
  in it (`Fault.IsIn`), and is reported as a malformed document or a bad pattern (`Fault.IsOfPattern`) unless it is a
  limit (`refused_for_cause`). Limits show in the document too: the digits of a number too long, or what the pattern of
  a provider asks for (`Fault.IsLimit`). They escape what is foreseen (`a_count_past_its_bound_escapes`).

  One lemma for each part of the reading says that what it fails with is in what it reads.
-/

import Untrack.Proofs.Pattern.Limits
import Untrack.Proofs.Ruleset.Reading

namespace Untrack

open Json (Value Fields)

/-! ## Documents and their faults -/

namespace Document

/-- The field is given this entry; a URL pattern is the only one of its field. -/
inductive Writes (fields : Fields) : Field → Value → Prop
  | url {v : Value} : fields.get? Field.urlPattern.key = some v → Writes fields .urlPattern v
  | item {field : Field} {items : List Value} {v : Value} : field ≠ .urlPattern →
      fields.get? field.key = some (.list items) → v ∈ items → Writes fields field v

/-- A document as it is given: its text, its bytes, or its value, where no object has a name twice. -/
inductive Given
  | text (t : Text)
  | bytes (b : Bytes)
  | decoded (v : Value) (distinct : v.Distinct)

namespace Given

def value : Given → Except Json.Fault Value
  | .text t => Json.read t
  | .bytes b => Json.readBytes b
  | .decoded v _ => .ok v

def rules : Given → Except Ruleset.Fault Ruleset
  | .text t => Ruleset.ofText t
  | .bytes b => Ruleset.ofBytes b
  | .decoded v _ => Ruleset.ofValue v

/-- The text that the document is written as. -/
inductive WrittenAs : Given → Text → Prop
  | text (t : Text) : WrittenAs (.text t) t
  | bytes {b : Bytes} {t : Text} : Bytes.decodeDetected b = .ok t → WrittenAs (.bytes b) t

/-- The document gives a provider this text for a pattern. -/
def Gives (d : Given) (name : Text) (field : Field) (t : Text) : Prop :=
  ∃ v providers fields, d.value = .ok v ∧ Holds v providers ∧ (name, .object fields) ∈ providers ∧
    Writes fields field (.text t)

end Given

end Document

open Document

/-- The fault is in the value that is given for a provider. -/
inductive Provider.Fault.IsIn : Provider.Fault → Value → Prop
  | notAnObject {v : Value} : (∀ fields, v ≠ .object fields) → IsIn (.notAnObject v.kind) v
  | noUrlPattern {fields : Fields} : (∀ v, fields.get? Field.urlPattern.key = some v → v.isVoid = true) →
      IsIn .noUrlPattern (.object fields)
  | completeNotBoolean {fields : Fields} {v : Value} : fields.get? "completeProvider".toList = some v →
      (∀ b, v ≠ .bool b) → IsIn .completeNotBoolean (.object fields)
  | notAList {fields : Fields} {field : Field} {v : Value} : field ≠ .urlPattern → fields.get? field.key = some v →
      v ≠ .null → (∀ items, v ≠ .list items) → IsIn (.notAList field) (.object fields)
  | entryNotText {fields : Fields} {field : Field} {v : Value} : Writes fields field v → (∀ t, v ≠ .text t) →
      IsIn (.entryNotText field v.kind) (.object fields)
  | badPattern {fields : Fields} {field : Field} {t : Text} {fault : Pattern.Fault} : Writes fields field (.text t) →
      Pattern.compile (unescape t) = .error fault → IsIn (.badPattern field t fault) (.object fields)
  | noGroup {fields : Fields} {t : Text} {p : Pattern} : Writes fields .redirections (.text t) → Spells t p →
      p.groups = 0 → IsIn (.noGroup t) (.object fields)

namespace Ruleset

/-- The fault is in the document. -/
inductive Fault.IsIn (d : Given) : Fault → Prop
  | json {f : Json.Fault} : d.value = .error f → IsIn d (.json f)
  | rootNotAnObject {v : Value} : d.value = .ok v → (∀ root, v ≠ .object root) → IsIn d .rootNotAnObject
  | noProviders {root : Fields} : d.value = .ok (.object root) →
      (∀ providers, root.get? "providers".toList ≠ some (.object providers)) → IsIn d .noProviders
  | provider {v w : Value} {providers : Fields} {name : Text} {f : Provider.Fault} : d.value = .ok v →
      Holds v providers → (name, w) ∈ providers → f.IsIn w → IsIn d (.provider name f)

/-- The fault is a pattern of the document that has a mistake, or that has no group for the target of a redirection. -/
inductive Fault.IsOfPattern (d : Given) : Fault → Prop
  | mistake {name t : Text} {field : Field} {f : Pattern.Fault} : d.Gives name field t →
      Pattern.compile (unescape t) = .error f → f.isMistake = true →
      IsOfPattern d (.provider name (.badPattern field t f))
  | noGroup {name t : Text} {p : Pattern} : d.Gives name .redirections t → Spells t p → p.groups = 0 →
      IsOfPattern d (.provider name (.noGroup t))

/-- The fault is a limit that shows in the document: in its text, or in a pattern that it gives. -/
inductive Fault.IsLimit (d : Given) : Fault → Prop
  | number {t : Text} {n : Nat} : d.WrittenAs t → Json.LongRun n t → IsLimit d (.json (.longNumber n))
  | pattern {name t : Text} {field : Field} {f : Pattern.Fault} : d.Gives name field t →
      Pattern.compile (unescape t) = .error f → f.isMistake = false → f.Shows (unescape t) →
      IsLimit d (.provider name (.badPattern field t f))

end Ruleset

/-! ## Providers -/

namespace Document

variable {fields : Fields} {field : Field} {name : Text} {f : Provider.Fault}

theorem patternOfValue_fails {v : Value} (h : patternOfValue field v = .error f) (hv : Writes fields field v) :
    f.IsIn (.object fields) := by
  cases v with
  | text t =>
    obtain ⟨fault, hc, rfl⟩ := mapError_error.mp h
    exact .badPattern hv hc
  | _ =>
    cases h
    exact .entryNotText hv nofun

theorem entries_fails (h : entries field fields = .error f) (hf : field ≠ .urlPattern) : f.IsIn (.object fields) := by
  unfold entries at h
  split at h <;> cases h
  rename_i v notNull notList found
  exact .notAList hf found notNull notList

theorem writes_of_entries {items : List Value} {v : Value} (h : entries field fields = .ok items)
    (hf : field ≠ .urlPattern) (hv : v ∈ items) : Writes fields field v := by
  rcases entries_ok.mp h with found | ⟨rfl, _⟩
  · exact .item hf found hv
  · cases hv

theorem patterns_fails (h : patterns field fields = .error f) (hf : field ≠ .urlPattern) : f.IsIn (.object fields) := by
  rcases except_bind_error.mp h with h | ⟨items, hi, h⟩
  · exact entries_fails h hf
  · obtain ⟨v, hv, h⟩ := except_mapM_error h
    exact patternOfValue_fails h (writes_of_entries hi hf hv)

theorem redirectionOfValue_fails {index : Nat} {v : Value} (h : redirectionOfValue name index v = .error f)
    (hv : Writes fields .redirections v) : f.IsIn (.object fields) := by
  cases v with
  | text t =>
    rcases except_bind_error.mp h with h | ⟨p, hp, h⟩
    · exact patternOfValue_fails h hv
    · obtain ⟨_, ⟨⟩, spelt⟩ := patternOfValue_ok.mp hp
      split at h <;> cases h
      exact .noGroup hv spelt ‹_›
  | _ =>
    cases h
    exact .entryNotText hv nofun

theorem redirections_fails (h : redirections name fields = .error f) : f.IsIn (.object fields) := by
  rcases except_bind_error.mp h with h | ⟨items, hi, h⟩
  · exact entries_fails h nofun
  · obtain ⟨⟨v, index⟩, hv, h⟩ := except_mapM_error h
    exact redirectionOfValue_fails h (writes_of_entries hi nofun (List.fst_mem_of_mem_zipIdx hv))

theorem completeness_fails (h : completeness fields = .error f) : f.IsIn (.object fields) := by
  unfold completeness at h
  split at h <;> cases h
  rename_i v notBool found
  exact .completeNotBoolean found notBool

theorem urlPatternValue_fails (h : urlPatternValue fields = .error f) : f.IsIn (.object fields) := by
  unfold urlPatternValue at h
  split at h
  · rename_i absent
    cases h
    exact .noUrlPattern fun v found => nomatch absent.symm.trans found
  · rename_i v found
    split at h <;> cases h
    refine .noUrlPattern fun w hw => ?_
    obtain rfl := Option.some.inj (found.symm.trans hw)
    assumption

end Document

/-- What a provider is refused for is in what is given for it. -/
theorem Provider.ofValue?_fails {name : Text} {v : Value} {f : Provider.Fault} (h : ofValue? name v = .error f) :
    f.IsIn v := by
  cases v with
  | object fields =>
    rcases except_bind_error.mp h with h | ⟨url, hu, h⟩
    · exact urlPatternValue_fails h
    rcases except_bind_error.mp h with h | ⟨_, _, h⟩
    · exact completeness_fails h
    rcases except_bind_error.mp h with h | ⟨_, _, h⟩
    · exact patterns_fails h nofun
    rcases except_bind_error.mp h with h | ⟨_, _, h⟩
    · exact patterns_fails h nofun
    rcases except_bind_error.mp h with h | ⟨_, _, h⟩
    · exact patterns_fails h nofun
    rcases except_bind_error.mp h with h | ⟨_, _, h⟩
    · exact patterns_fails h nofun
    rcases except_bind_error.mp h with h | ⟨_, _, h⟩
    · exact redirections_fails h
    rcases except_bind_error.mp h with h | ⟨_, _, h⟩
    · exact patternOfValue_fails h (.url (urlPatternValue_ok.mp hu).1)
    cases h
  | _ =>
    cases h
    exact .notAnObject nofun

/-! ## Documents -/

namespace Document.Given

variable {d : Given}

theorem rules_eq (d : Given) : d.rules = d.value.mapError .json >>= Ruleset.ofValue := by
  cases d <;> rfl

theorem value_distinct {v : Value} (h : d.value = .ok v) : v.Distinct := by
  cases d with
  | text t => exact Json.read_distinct h
  | bytes b =>
    obtain ⟨t, _, h⟩ := Json.readBytes_ok h
    exact Json.read_distinct h
  | decoded w distinct =>
    cases h
    exact distinct

/-- A number that is too long is so in the text of the document. -/
theorem value_longNumber {n : Nat} (h : d.value = .error (.longNumber n)) : ∃ t, d.WrittenAs t ∧ Json.LongRun n t := by
  cases d with
  | text t => exact ⟨t, .text t, Json.read_longNumber h⟩
  | bytes b =>
    obtain ⟨t, ht, run⟩ := Json.readBytes_longNumber h
    exact ⟨t, .bytes ht, run⟩
  | decoded v _ => cases h

end Document.Given

namespace Ruleset

variable {d : Given} {f : Fault}

theorem providersValue_fails {v : Value} (hv : d.value = .ok v) (h : providersValue v = .error f) : f.IsIn d := by
  unfold providersValue at h
  split at h
  · split at h <;> cases h
    exact .noProviders hv ‹_›
  · cases h
    exact .rootNotAnObject hv ‹_›

/-- What a document is refused for is in it. -/
theorem rules_fails (h : d.rules = .error f) : f.IsIn d := by
  rw [Given.rules_eq] at h
  rcases except_bind_error.mp h with h | ⟨v, hv, h⟩
  · obtain ⟨fault, hf, rfl⟩ := mapError_error.mp h
    exact .json hf
  have value := mapError_ok.mp hv
  rcases except_bind_error.mp h with h | ⟨providers, hp, h⟩
  · exact providersValue_fails value h
  have held := providersValue_ok.mp hp
  rcases except_bind_error.mp h with h | ⟨ps, hps, h⟩
  · obtain ⟨⟨name, w⟩, hw, h⟩ := except_mapM_error h
    obtain ⟨fault, hf, rfl⟩ := mapError_error.mp h
    exact .provider value held hw (Provider.ofValue?_fails hf)
  · rw [ofProviders_of_distinct (Given.value_distinct value) held hps] at h
    cases h

theorem Fault.IsIn.isOfPattern (h : f.IsIn d) (bad : f.isBadPattern = true) : f.IsOfPattern d := by
  cases h with
  | provider hv held hw hp =>
    cases hp with
    | badPattern written hc => exact .mistake ⟨_, _, _, hv, held, hw, written⟩ hc bad
    | noGroup written spelt none => exact .noGroup ⟨_, _, _, hv, held, hw, written⟩ spelt none
    | _ => cases bad
  | _ => cases bad

theorem Fault.IsIn.isLimit (h : f.IsIn d) (escapes : f.isReported = false) : f.IsLimit d := by
  cases h with
  | @json fault hf =>
    cases fault with
    | longNumber n =>
      obtain ⟨t, written, run⟩ := Given.value_longNumber hf
      exact .number written run
    | _ => cases escapes
  | provider hv held hw hp =>
    cases hp with
    | badPattern written hc =>
      exact .pattern ⟨_, _, _, hv, held, hw, written⟩ hc escapes (Pattern.shows_of_compile hc)
    | _ => cases escapes
  | _ => cases escapes

/-- A document, however it is given, is refused for a fault that is in it. The fault escapes exactly if it is a limit
that the document runs into, and shows in it. Otherwise it is reported: as a bad pattern exactly if it is a pattern of
the document that has a mistake or lacks its group, and as a malformed document if it is anything else. -/
theorem refused_for_cause (h : d.rules = .error f) :
    f.IsIn d ∧ (f.isReported = false ↔ f.IsLimit d) ∧ (f.isBadPattern = true ↔ f.IsOfPattern d) := by
  have found := rules_fails h
  refine ⟨found, ⟨found.isLimit, fun limit => ?_⟩, ⟨found.isOfPattern, fun pattern => ?_⟩⟩
  · cases limit with
    | number _ _ => rfl
    | pattern _ _ limit _ => exact limit
  · cases pattern with
    | mistake _ _ mistake => exact mistake
    | noGroup _ _ _ => rfl

/-- A document whose one pattern asks for the letter a 4294967295 times. -/
def overcounted : Value :=
  .object [("providers".toList, .object [("p".toList, .object [("urlPattern".toList,
    .text "a\x7b4294967295\x7d".toList)])])]

theorem overcounted_distinct : overcounted.Distinct := by
  refine .object (by decide) fun f hf => ?_
  obtain rfl := List.mem_singleton.mp hf
  refine .object (by decide) fun f hf => ?_
  obtain rfl := List.mem_singleton.mp hf
  refine .object (by decide) fun f hf => ?_
  obtain rfl := List.mem_singleton.mp hf
  exact .text _

/-- The fault of that document. -/
def overcount : Fault := .provider "p".toList (.badPattern .urlPattern "a\x7b4294967295\x7d".toList .countTooLarge)

theorem overcounted_refused :
    (Given.decoded overcounted overcounted_distinct).rules = .error overcount ∧
      overcount.IsIn (.decoded overcounted overcounted_distinct) ∧
      overcount.IsLimit (.decoded overcounted overcounted_distinct) ∧
      ¬ overcount.IsOfPattern (.decoded overcounted overcounted_distinct) := by
  have refused : (Given.decoded overcounted overcounted_distinct).rules = .error overcount := by decide +kernel
  obtain ⟨found, limit, pattern⟩ := refused_for_cause refused
  exact ⟨refused, found, limit.mp rfl, fun bad => nomatch pattern.mpr bad⟩

/-- A fault that is neither of a malformed document nor of a bad pattern escapes. -/
theorem a_count_past_its_bound_escapes :
    ¬ ∀ (d : Given) (f : Fault), d.rules = .error f → f.isReported = true := by
  intro reported
  have refused : (Given.decoded overcounted overcounted_distinct).rules = .error overcount := by decide +kernel
  exact nomatch reported _ _ refused

end Ruleset
end Untrack
