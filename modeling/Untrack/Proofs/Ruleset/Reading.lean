/-
  Untrack.Proofs.Ruleset.Reading — which documents hold rules, and which rules those are (`read_iff_wellFormed`). A
  document is read exactly if all in it is as it should be (`Document.WellFormed`), and what comes of it has every
  provider once, in the order of their names, with every pattern in its place (`Ruleset.From`).

  Both sides are told field by field: `Document.Describes` is what the fields of a provider have to be, and
  `Provider.From` what the provider then is. One lemma for each part of the reading says what it takes and gives.
-/

import Untrack.Proofs.Json.Reading
import Untrack.Proofs.Ruleset.Names
import Untrack.Ruleset.Document

namespace Untrack

open Json (Value Fields)

/-! ## What a document says -/

namespace Document

/-- The text is written for the pattern: with its doubled backslashes undone, it compiles to it. -/
def Spells (t : Text) (p : Pattern) : Prop := Pattern.compile (unescape t) = .ok p

/-- The field is a list of just these texts; absent or null, it is a list of none. -/
def Lists (fields : Fields) (field : Field) (ts : List Text) : Prop :=
  fields.get? field.key = some (.list (ts.map .text)) ∨
    ts = [] ∧ (fields.get? field.key = none ∨ fields.get? field.key = some .null)

/-- The fields are those of a provider. -/
structure Describes (fields : Fields) : Prop where
  url : ∃ t, fields.get? Field.urlPattern.key = some (.text t) ∧ t ≠ [] ∧ ∃ p, Spells t p
  complete : fields.get? "completeProvider".toList = none ∨
    ∃ b, fields.get? "completeProvider".toList = some (.bool b)
  lists : ∀ field, field ≠ .urlPattern → ∃ ts, Lists fields field ts ∧ ∀ t ∈ ts, ∃ p, Spells t p
  targets : ∀ ts, Lists fields .redirections ts → ∀ t ∈ ts, ∀ p, Spells t p → 1 ≤ p.groups

/-- The document is an object that has these providers. -/
def Holds (v : Value) (providers : Fields) : Prop :=
  ∃ root : Fields, v = .object root ∧ root.get? "providers".toList = some (.object providers)

/-- The document has providers, all described as they should be. -/
def WellFormed (v : Value) : Prop :=
  ∃ providers, Holds v providers ∧ ∀ f ∈ providers, ∃ fields : Fields, f.2 = .object fields ∧ Describes fields

end Document

/-- The label of a provider's redirection. -/
def Redirection.labelOf (name : Text) (index : Nat) : Text := name ++ '#' :: (toString index).toList

/-- The patterns that a provider has for a field. -/
def Provider.patternsOf (p : Provider) : Field → List Pattern
  | .urlPattern => [p.urlPattern]
  | .rules => p.rules
  | .referralMarketing => p.referralMarketing
  | .rawRules => p.rawRules
  | .exceptions => p.exceptions
  | .redirections => p.redirections.map (·.pattern)

/-- The provider is the one that fields under a name describe. -/
structure Provider.From (p : Provider) (name : Text) (fields : Fields) : Prop where
  named : p.name = name
  url : ∃ t, fields.get? Field.urlPattern.key = some (.text t) ∧ t ≠ [] ∧ Document.Spells t p.urlPattern
  complete : fields.get? "completeProvider".toList = some (.bool p.complete) ∨
    fields.get? "completeProvider".toList = none ∧ p.complete = false
  lists : ∀ field, field ≠ .urlPattern →
    ∃ ts, Document.Lists fields field ts ∧ List.Forall₂ Document.Spells ts (p.patternsOf field)
  targets : ∀ r ∈ p.redirections, 1 ≤ r.pattern.groups
  labels : ∀ i r, p.redirections[i]? = some r → r.label = Redirection.labelOf name i

/-- The rules are the providers that these fields describe, one for each, with names that increase. -/
structure Ruleset.From (rules : Ruleset) (providers : Fields) : Prop where
  each : ∃ ps, List.Forall₂ (fun f (p : Provider) => ∃ fields, f.2 = .object fields ∧ p.From f.1 fields) providers ps ∧
    rules.providers.Perm ps
  increasing : rules.names.Pairwise Text.Before

/-! ## Lists side by side -/

section Forall₂

variable {α β : Type} {R : α → β → Prop} {l : List α} {bs : List β}

theorem exists_forall₂ (h : ∀ a ∈ l, ∃ b, R a b) : ∃ bs, List.Forall₂ R l bs := by
  induction l with
  | nil => exact ⟨[], .nil⟩
  | cons a l ih =>
    obtain ⟨⟨b, hb⟩, rest⟩ := List.forall_mem_cons.mp h
    obtain ⟨bs, hbs⟩ := ih rest
    exact ⟨b :: bs, .cons hb hbs⟩

end Forall₂

/-! ## Fields -/

namespace Document

variable {fields : Fields} {field : Field} {name : Text}

theorem patternOfValue_ok {v : Value} {p : Pattern} :
    patternOfValue field v = .ok p ↔ ∃ t, v = .text t ∧ Spells t p := by
  cases v <;> simp [patternOfValue, Spells, mapError_ok]

theorem entries_ok {items : List Value} :
    entries field fields = .ok items ↔ fields.get? field.key = some (.list items) ∨
      items = [] ∧ (fields.get? field.key = none ∨ fields.get? field.key = some .null) := by
  unfold entries
  rcases fields.get? field.key with _ | v
  · simp [eq_comm]
  · cases v <;> simp [eq_comm]

theorem completeness_ok {b : Bool} :
    completeness fields = .ok b ↔ fields.get? "completeProvider".toList = some (.bool b) ∨
      fields.get? "completeProvider".toList = none ∧ b = false := by
  unfold completeness
  rcases fields.get? "completeProvider".toList with _ | v
  · simp [eq_comm]
  · cases v <;> simp

theorem urlPatternValue_ok {v : Value} :
    urlPatternValue fields = .ok v ↔ fields.get? Field.urlPattern.key = some v ∧ v.isVoid = false := by
  unfold urlPatternValue
  rcases fields.get? Field.urlPattern.key with _ | w
  · simp
  · by_cases hw : w.isVoid = true
    · simp only [if_pos hw, reduceCtorEq, Option.some.injEq, false_iff, not_and, Bool.not_eq_false]
      rintro rfl
      exact hw
    · simp only [if_neg hw, Except.ok.injEq, Option.some.injEq]
      refine ⟨fun h => ⟨h, h ▸ Bool.eq_false_iff.mpr hw⟩, And.left⟩

/-- Items that all give patterns are texts. -/
theorem forall₂_patternOfValue {items : List Value} {ps : List Pattern} :
    List.Forall₂ (fun v p => patternOfValue field v = .ok p) items ps ↔
      ∃ ts, items = ts.map .text ∧ List.Forall₂ Spells ts ps := by
  constructor
  · intro h
    induction h with
    | nil => exact ⟨[], rfl, .nil⟩
    | cons hp _ ih =>
      obtain ⟨t, rfl, ht⟩ := patternOfValue_ok.mp hp
      obtain ⟨ts, rfl, hts⟩ := ih
      exact ⟨t :: ts, rfl, .cons ht hts⟩
  · rintro ⟨ts, rfl, h⟩
    exact List.forall₂_map_left_iff.mpr (h.imp fun t p ht => patternOfValue_ok.mpr ⟨t, rfl, ht⟩)

theorem entries_texts {ts : List Text} : entries field fields = .ok (ts.map .text) ↔ Lists fields field ts := by
  rw [entries_ok, Lists, List.map_eq_nil_iff]

theorem Lists.unique {ts us : List Text} (ht : Lists fields field ts) (hu : Lists fields field us) : ts = us := by
  have same := Except.ok.inj ((entries_texts.mpr ht).symm.trans (entries_texts.mpr hu))
  exact List.map_injective_iff.mpr (fun _ _ => Value.text.inj) same

theorem Spells.unique {t : Text} {p q : Pattern} (hp : Spells t p) (hq : Spells t q) : p = q :=
  Except.ok.inj (Eq.trans (Eq.symm hp) hq)

theorem patterns_ok {ps : List Pattern} :
    patterns field fields = .ok ps ↔ ∃ ts, Lists fields field ts ∧ List.Forall₂ Spells ts ps := by
  unfold patterns
  rw [except_bind_ok]
  constructor
  · rintro ⟨items, hi, h⟩
    obtain ⟨ts, rfl, hts⟩ := forall₂_patternOfValue.mp (except_mapM_ok.mp h)
    exact ⟨ts, entries_texts.mp hi, hts⟩
  · rintro ⟨ts, hl, hts⟩
    exact ⟨_, entries_texts.mpr hl, except_mapM_ok.mpr (forall₂_patternOfValue.mpr ⟨ts, rfl, hts⟩)⟩

theorem redirectionOfValue_ok {index : Nat} {v : Value} {r : Redirection} :
    redirectionOfValue name index v = .ok r ↔
      ∃ t, v = .text t ∧ Spells t r.pattern ∧ 1 ≤ r.pattern.groups ∧ r.label = Redirection.labelOf name index := by
  constructor
  · intro h
    cases v with
    | text t =>
      obtain ⟨p, hp, h⟩ := except_bind_ok.mp h
      obtain ⟨t', ht, spelt⟩ := patternOfValue_ok.mp hp
      split at h
      · cases h
      · cases h
        exact ⟨t', ht, spelt, Nat.pos_of_ne_zero ‹_›, rfl⟩
    | _ => cases h
  · rintro ⟨t, rfl, spelt, groups, label⟩
    refine except_bind_ok.mpr ⟨r.pattern, patternOfValue_ok.mpr ⟨t, rfl, spelt⟩, ?_⟩
    rw [if_neg (Nat.ne_of_gt groups), ← Redirection.labelOf, ← label]
    rfl

/-- Redirections that are read from the items of a list, the first of which has a number. -/
theorem forall₂_redirectionOfValue {first : Nat} {items : List Value} {rs : List Redirection} :
    List.Forall₂ (fun (i : Value × Nat) r => redirectionOfValue name i.2 i.1 = .ok r) (items.zipIdx first) rs ↔
      ∃ ts, items = ts.map .text ∧ List.Forall₂ Spells ts (rs.map (·.pattern)) ∧
        (∀ r ∈ rs, 1 ≤ r.pattern.groups) ∧ ∀ i r, rs[i]? = some r → r.label = Redirection.labelOf name (first + i) := by
  induction items generalizing first rs with
  | nil =>
    simp only [List.zipIdx_nil, List.forall₂_nil_left_iff]
    constructor
    · rintro rfl
      exact ⟨[], rfl, .nil, fun _ h => (nomatch h), fun i r h => (nomatch h)⟩
    · rintro ⟨ts, hts, h, _⟩
      rw [List.map_eq_nil_iff.mp hts.symm, List.forall₂_nil_left_iff] at h
      exact List.map_eq_nil_iff.mp h
  | cons v items ih =>
    rw [List.zipIdx_cons]
    constructor
    · intro h
      rcases h with _ | @⟨_, r, _, rs, hr, hrs⟩
      obtain ⟨t, rfl, spelt, groups, label⟩ := redirectionOfValue_ok.mp hr
      obtain ⟨ts, rfl, hts, all, labels⟩ := ih.mp hrs
      refine ⟨t :: ts, rfl, .cons spelt hts, List.forall_mem_cons.mpr ⟨groups, all⟩, ?_⟩
      intro i q hq
      cases i with
      | zero =>
        cases hq
        exact label
      | succ i =>
        rw [Nat.add_comm i, ← Nat.add_assoc]
        exact labels i q hq
    · rintro ⟨ts, hts, h, all, labels⟩
      cases ts with
      | nil => cases hts
      | cons t ts =>
        obtain ⟨rfl, rfl⟩ := List.cons.inj hts
        cases rs with
        | nil => cases h
        | cons r rs =>
          rcases h with _ | ⟨spelt, h⟩
          obtain ⟨groups, all⟩ := List.forall_mem_cons.mp all
          refine .cons (redirectionOfValue_ok.mpr ⟨t, rfl, spelt, groups, labels 0 r rfl⟩)
            (ih.mpr ⟨ts, rfl, h, all, ?_⟩)
          intro i q hq
          rw [Nat.add_assoc, Nat.add_comm 1]
          exact labels (i + 1) q hq

theorem redirections_ok {rs : List Redirection} :
    redirections name fields = .ok rs ↔
      ∃ ts, Lists fields .redirections ts ∧ List.Forall₂ Spells ts (rs.map (·.pattern)) ∧
        (∀ r ∈ rs, 1 ≤ r.pattern.groups) ∧ ∀ i r, rs[i]? = some r → r.label = Redirection.labelOf name i := by
  unfold redirections
  rw [except_bind_ok]
  constructor
  · rintro ⟨items, hi, h⟩
    obtain ⟨ts, rfl, hts, groups, labels⟩ := forall₂_redirectionOfValue.mp (except_mapM_ok.mp h)
    exact ⟨ts, entries_texts.mp hi, hts, groups, by simpa using labels⟩
  · rintro ⟨ts, hl, hts, groups, labels⟩
    refine ⟨_, entries_texts.mpr hl, except_mapM_ok.mpr (forall₂_redirectionOfValue.mpr ⟨ts, rfl, hts, groups, ?_⟩)⟩
    simpa using labels

end Document

/-! ## Providers -/

namespace Provider

open Document

variable {name : Text} {fields : Fields} {p : Provider}

theorem from_of_ofValue? (h : ofValue? name (.object fields) = .ok p) : p.From name fields := by
  obtain ⟨url, hurl, h⟩ := except_bind_ok.mp h
  obtain ⟨complete, hcomplete, h⟩ := except_bind_ok.mp h
  obtain ⟨rules, hrules, h⟩ := except_bind_ok.mp h
  obtain ⟨referral, hreferral, h⟩ := except_bind_ok.mp h
  obtain ⟨raw, hraw, h⟩ := except_bind_ok.mp h
  obtain ⟨exceptions, hexceptions, h⟩ := except_bind_ok.mp h
  obtain ⟨redirections, hredirections, h⟩ := except_bind_ok.mp h
  obtain ⟨urlPattern, hpattern, h⟩ := except_bind_ok.mp h
  cases h
  obtain ⟨t, rfl, spelt⟩ := patternOfValue_ok.mp hpattern
  obtain ⟨hurl, present⟩ := urlPatternValue_ok.mp hurl
  obtain ⟨ts, listed, targets, groups, labels⟩ := redirections_ok.mp hredirections
  refine ⟨rfl, ⟨t, hurl, by simpa [Value.isVoid] using present, spelt⟩, completeness_ok.mp hcomplete, ?_, groups,
    labels⟩
  intro field hf
  cases field with
  | urlPattern => exact absurd rfl hf
  | rules => exact patterns_ok.mp hrules
  | referralMarketing => exact patterns_ok.mp hreferral
  | rawRules => exact patterns_ok.mp hraw
  | exceptions => exact patterns_ok.mp hexceptions
  | redirections => exact ⟨ts, listed, targets⟩

theorem ofValue?_of_from (h : p.From name fields) : ofValue? name (.object fields) = .ok p := by
  obtain ⟨t, hurl, present, spelt⟩ := h.url
  have url : urlPatternValue fields = .ok (.text t) :=
    urlPatternValue_ok.mpr ⟨hurl, by simpa [Value.isVoid] using present⟩
  have listed : ∀ field, field ≠ .urlPattern → patterns field fields = .ok (p.patternsOf field) := fun field hf =>
    patterns_ok.mpr (h.lists field hf)
  obtain ⟨ts, hts, targets⟩ := h.lists .redirections nofun
  have followed : Document.redirections name fields = .ok p.redirections :=
    redirections_ok.mpr ⟨ts, hts, targets, h.targets, h.labels⟩
  have compiled : patternOfValue .urlPattern (.text t) = .ok p.urlPattern := patternOfValue_ok.mpr ⟨t, rfl, spelt⟩
  refine except_bind_ok.mpr ⟨_, url, except_bind_ok.mpr ⟨_, completeness_ok.mpr h.complete, ?_⟩⟩
  refine except_bind_ok.mpr ⟨_, listed .rules nofun, except_bind_ok.mpr ⟨_, listed .referralMarketing nofun, ?_⟩⟩
  refine except_bind_ok.mpr ⟨_, listed .rawRules nofun, except_bind_ok.mpr ⟨_, listed .exceptions nofun, ?_⟩⟩
  refine except_bind_ok.mpr ⟨_, followed, except_bind_ok.mpr ⟨_, compiled, ?_⟩⟩
  rw [← h.named]
  rfl

theorem ofValue?_ok {v : Value} : ofValue? name v = .ok p ↔ ∃ fields, v = .object fields ∧ p.From name fields := by
  constructor
  · intro h
    cases v with
    | object fields => exact ⟨fields, rfl, from_of_ofValue? h⟩
    | _ => cases h
  · rintro ⟨fields, rfl, h⟩
    exact ofValue?_of_from h

/-- The redirections with given patterns, numbered. -/
def numbered (name : Text) (ps : List Pattern) : List Redirection :=
  ps.mapIdx fun i p => ⟨Redirection.labelOf name i, p⟩

theorem numbered_patterns (name : Text) (ps : List Pattern) : (numbered name ps).map (·.pattern) = ps :=
  List.ext_getElem (by simp [numbered]) (by simp [numbered])

theorem numbered_label {name : Text} {ps : List Pattern} {i : Nat} {r : Redirection}
    (h : (numbered name ps)[i]? = some r) : r.label = Redirection.labelOf name i := by
  rw [numbered, List.getElem?_mapIdx, Option.map_eq_some_iff] at h
  obtain ⟨p, _, rfl⟩ := h
  rfl

/-- What fields describe is a provider. -/
theorem exists_from (name : Text) (h : Describes fields) : ∃ p : Provider, p.From name fields := by
  obtain ⟨t, hurl, present, urlPattern, spelt⟩ := h.url
  have listed : ∀ field, field ≠ .urlPattern → ∃ ps, ∃ ts, Lists fields field ts ∧ List.Forall₂ Spells ts ps := by
    intro field hf
    obtain ⟨ts, hts, all⟩ := h.lists field hf
    obtain ⟨ps, hps⟩ := exists_forall₂ all
    exact ⟨ps, ts, hts, hps⟩
  obtain ⟨rules, hrules⟩ := listed .rules nofun
  obtain ⟨referralMarketing, hreferral⟩ := listed .referralMarketing nofun
  obtain ⟨rawRules, hraw⟩ := listed .rawRules nofun
  obtain ⟨exceptions, hexceptions⟩ := listed .exceptions nofun
  obtain ⟨targets, ts, hts, htargets⟩ := listed .redirections nofun
  obtain ⟨complete, hcomplete⟩ : ∃ b, completeness fields = .ok b := by
    rcases h.complete with absent | ⟨b, given⟩
    · exact ⟨false, completeness_ok.mpr (Or.inr ⟨absent, rfl⟩)⟩
    · exact ⟨b, completeness_ok.mpr (Or.inl given)⟩
  refine ⟨⟨name, urlPattern, complete, numbered name targets, rules, referralMarketing, rawRules, exceptions⟩, rfl,
    ⟨t, hurl, present, spelt⟩, completeness_ok.mp hcomplete, ?_, ?_, fun i r => numbered_label⟩
  · intro field hf
    cases field with
    | urlPattern => exact absurd rfl hf
    | rules => exact hrules
    | referralMarketing => exact hreferral
    | rawRules => exact hraw
    | exceptions => exact hexceptions
    | redirections =>
      refine ⟨ts, hts, ?_⟩
      rw [patternsOf, numbered_patterns]
      exact htargets
  · intro r hr
    have listed : r.pattern ∈ targets := numbered_patterns name targets ▸ List.mem_map_of_mem hr
    obtain ⟨t, ht, spelt⟩ := exists_left_of_forall₂ htargets _ listed
    exact h.targets ts hts t ht _ spelt

theorem From.describes (h : p.From name fields) : Describes fields := by
  obtain ⟨t, hurl, present, spelt⟩ := h.url
  refine ⟨⟨t, hurl, present, _, spelt⟩, ?_, ?_, ?_⟩
  · rcases h.complete with given | ⟨absent, _⟩
    · exact Or.inr ⟨_, given⟩
    · exact Or.inl absent
  · intro field hf
    obtain ⟨ts, hts, all⟩ := h.lists field hf
    refine ⟨ts, hts, fun t ht => ?_⟩
    obtain ⟨q, _, hq⟩ := exists_right_of_forall₂ all t ht
    exact ⟨q, hq⟩
  · intro ts hts t ht q hq
    obtain ⟨us, hus, all⟩ := h.lists .redirections nofun
    obtain ⟨q', hm, hq'⟩ := exists_right_of_forall₂ all t (Lists.unique hts hus ▸ ht)
    obtain ⟨r, hr, rfl⟩ := List.mem_map.mp hm
    exact Spells.unique hq hq' ▸ h.targets r hr

end Provider

/-! ## Documents -/

namespace Ruleset

theorem providersValue_ok {v : Value} {providers : Fields} :
    providersValue v = .ok providers ↔ Document.Holds v providers := by
  unfold providersValue Document.Holds
  cases v with
  | object root =>
    simp only [Value.object.injEq, exists_eq_left']
    rcases Fields.get? root "providers".toList with _ | w
    · simp
    · cases w <;> simp
  | _ => simp

/-- The fields of a document give providers exactly if each gives the one it describes. -/
theorem mapM_providerOfField {providers : Fields} {ps : List Provider} :
    providers.mapM providerOfField = .ok ps ↔
      List.Forall₂ (fun f (p : Provider) => ∃ fields, f.2 = .object fields ∧ p.From f.1 fields) providers ps := by
  have one : ∀ f p, providerOfField f = .ok p ↔ ∃ fields, f.2 = .object fields ∧ p.From f.1 fields := fun f p =>
    mapError_ok.trans Provider.ofValue?_ok
  rw [except_mapM_ok]
  simp only [one]

/-- A document is read exactly as the rules that are those of its providers. -/
theorem ofValue_ok {v : Value} {rules : Ruleset} :
    ofValue v = .ok rules ↔ ∃ providers, Document.Holds v providers ∧ rules.From providers := by
  unfold ofValue
  rw [except_bind_ok]
  refine exists_congr fun providers => and_congr providersValue_ok ?_
  rw [except_bind_ok]
  constructor
  · rintro ⟨ps, hps, h⟩
    obtain ⟨perm, increasing⟩ := ofProviders_ok_iff.mp (mapError_ok.mp h)
    exact ⟨⟨ps, mapM_providerOfField.mp hps, perm⟩, increasing⟩
  · rintro ⟨⟨ps, each, perm⟩, increasing⟩
    exact ⟨ps, mapM_providerOfField.mpr each, mapError_ok.mpr (ofProviders_ok_iff.mpr ⟨perm, increasing⟩)⟩

/-- The rules were read from a document: from its text, its bytes or its value. -/
def IsRead (rules : Ruleset) : Prop :=
  (∃ t, ofText t = .ok rules) ∨ (∃ b, ofBytes b = .ok rules) ∨ ∃ v, ofValue v = .ok rules

theorem IsRead.value {rules : Ruleset} (h : rules.IsRead) : ∃ v, ofValue v = .ok rules := by
  rcases h with ⟨_, h⟩ | ⟨_, h⟩ | h
  · obtain ⟨v, _, h⟩ := except_bind_ok.mp h
    exact ⟨v, h⟩
  · obtain ⟨v, _, h⟩ := except_bind_ok.mp h
    exact ⟨v, h⟩
  · exact h

/-- Rules that were read come from the fields of a document, provider by provider. -/
theorem IsRead.from_fields {rules : Ruleset} (h : rules.IsRead) {p : Provider} (hp : p ∈ rules.providers) :
    ∃ name fields, p.From name fields := by
  obtain ⟨v, h⟩ := h.value
  obtain ⟨providers, _, ⟨ps, each, perm⟩, _⟩ := ofValue_ok.mp h
  obtain ⟨f, _, fields, _, from_⟩ := exists_left_of_forall₂ each p (perm.mem_iff.mp hp)
  exact ⟨f.1, fields, from_⟩

theorem names_of_forall₂ {providers : Fields} {ps : List Provider}
    (h : List.Forall₂ (fun f (p : Provider) => ∃ fields, f.2 = .object fields ∧ p.From f.1 fields) providers ps) :
    ps.map (·.name) = providers.names := by
  induction h with
  | nil => rfl
  | cons hp _ ih =>
    obtain ⟨fields, _, from_⟩ := hp
    rw [List.map_cons, ih, from_.named]
    rfl

/-- No provider comes twice from an object that has no name twice. -/
theorem ofProviders_of_distinct {v : Value} {providers : Fields} {ps : List Provider} (distinct : v.Distinct)
    (held : Document.Holds v providers) (h : providers.mapM providerOfField = .ok ps) :
    ofProviders ps = .ok ⟨ps.mergeSort byName⟩ := by
  obtain ⟨root, rfl, found⟩ := held
  have differ : (ps.map (·.name)).Nodup := by
    rw [names_of_forall₂ (mapM_providerOfField.mp h)]
    exact (distinct.field found).names
  exact ofProviders_ok_iff.mpr ⟨List.mergeSort_perm ps byName, names_mergeSort differ⟩

/-- A document in which each object has a name once is read exactly if it is well-formed. What comes of it then are
the providers it describes, one for each of its names and in the order of their names, each with what its fields say
and every pattern in its place; and nothing else comes of it. -/
theorem read_iff_wellFormed {v : Value} (decoded : v.Distinct) :
    ((∃ rules, ofValue v = .ok rules) ↔ Document.WellFormed v) ∧
      ∀ rules, ofValue v = .ok rules ↔ ∃ providers, Document.Holds v providers ∧ rules.From providers := by
  refine ⟨⟨?_, ?_⟩, fun rules => ofValue_ok⟩
  · rintro ⟨rules, h⟩
    obtain ⟨providers, held, ⟨ps, each, _⟩, _⟩ := ofValue_ok.mp h
    refine ⟨providers, held, fun f hf => ?_⟩
    obtain ⟨p, _, fields, object, from_⟩ := exists_right_of_forall₂ each f hf
    exact ⟨fields, object, from_.describes⟩
  · rintro ⟨providers, held, all⟩
    have described : ∀ f ∈ providers, ∃ p : Provider, ∃ fields, f.2 = .object fields ∧ p.From f.1 fields := by
      intro f hf
      obtain ⟨fields, object, describes⟩ := all f hf
      obtain ⟨p, from_⟩ := Provider.exists_from f.1 describes
      exact ⟨p, fields, object, from_⟩
    obtain ⟨ps, each⟩ := exists_forall₂ described
    have made := ofProviders_of_distinct decoded held (mapM_providerOfField.mpr each)
    obtain ⟨perm, increasing⟩ := ofProviders_ok_iff.mp made
    exact ⟨_, ofValue_ok.mpr ⟨providers, held, ⟨ps, each, perm⟩, increasing⟩⟩

/-- A shop whose links lead elsewhere and lose two parameters, and then a provider that blocks. -/
def catalogue : Text :=
  ("\x7b\"providers\":\x7b\"shop\":\x7b\"urlPattern\":\"shop\\\\\\\\.\",\"rules\":[\"^utm_\",\"^ref$\"]," ++
    "\"rawRules\":null,\"redirections\":[\"to=([^&]*)\"]\x7d," ++
    "\"ads\":\x7b\"urlPattern\":\"ads\",\"completeProvider\":true\x7d\x7d\x7d").toList

theorem catalogue_read :
    ∃ v rules, Json.read catalogue = .ok v ∧ v.Distinct ∧ Document.WellFormed v ∧ ofValue v = .ok rules ∧
      rules.names = ["ads".toList, "shop".toList] ∧
      rules.providers.map (·.complete) = [true, false] ∧
      rules.providers.map (·.urlPattern.source) = ["ads".toList, "shop\\.".toList] ∧
      rules.providers.map (fun p => p.redirections.map (·.label)) = [[], ["shop#0".toList]] ∧
      ∃ providers, Document.Holds v providers ∧ rules.From providers := by
  have reading : ((Json.read catalogue).mapError Fault.json >>= fun v => providersValue v >>= fun providers =>
      (providers.mapM providerOfField).map fun ps => ps.map fun p =>
        (p.name, p.complete, p.urlPattern.source, p.redirections.map (·.label))) =
      .ok [("shop".toList, false, "shop\\.".toList, ["shop#0".toList]), ("ads".toList, true, "ads".toList, [])] := by
    decide +kernel
  obtain ⟨v, hv, reading⟩ := except_bind_ok.mp reading
  obtain ⟨providers, hp, reading⟩ := except_bind_ok.mp reading
  rcases hps : providers.mapM providerOfField with f | ps <;> rw [hps] at reading
  · cases reading
  obtain ⟨shop, _, rfl, hshop, reading⟩ := List.map_eq_cons_iff.mp (Except.ok.inj reading)
  obtain ⟨ads, _, rfl, hads, reading⟩ := List.map_eq_cons_iff.mp reading
  obtain rfl := List.map_eq_nil_iff.mp reading
  simp only [Prod.mk.injEq] at hshop hads
  have sorted : ofProviders [shop, ads] = .ok ⟨[ads, shop]⟩ := by
    refine ofProviders_ok_iff.mpr ⟨List.Perm.swap _ _ _, ?_⟩
    have first : Text.Before "ads".toList "shop".toList := .rel (by decide)
    simpa [names, hshop, hads] using first
  have read : ofValue v = .ok ⟨[ads, shop]⟩ :=
    except_bind_ok.mpr ⟨providers, hp, except_bind_ok.mpr ⟨_, hps, mapError_ok.mpr sorted⟩⟩
  have decoded := Json.read_distinct (mapError_ok.mp hv)
  obtain ⟨accepted, told⟩ := read_iff_wellFormed decoded
  refine ⟨v, _, mapError_ok.mp hv, decoded, accepted.mp ⟨_, read⟩, read, ?_, ?_, ?_, ?_, (told _).mp read⟩
  · simp only [names, List.map_cons, List.map_nil, hshop, hads]
  · simp only [List.map_cons, List.map_nil, hshop, hads]
  · simp only [List.map_cons, List.map_nil, hshop, hads]
  · simp only [List.map_cons, List.map_nil, hshop, hads]

end Ruleset
end Untrack
