/-
  Untrack.Proofs.Ruleset.FirstFault — which of its faults a document is refused for (`first_fault_reported`): that of
  the first check to fail, of the first provider with such a check. What comes after it does not matter.

  The checks are told apart from the reading, in the order in which they are made (`Provider.checks`): a provider is
  asked for its URL pattern first, which is compiled last, and the order in which its fields are written is no matter.
  A part of the reading finds the faults of its checks (`Finds`). What is read in two steps finds those of the one and
  then those of the other (`Finds.bind`), and so on to the whole provider (`Provider.finds_ofValue?`).
-/

import Untrack.Proofs.Ruleset.Faults

namespace Untrack

open Json (Value Fields)
open Document

/-! ## Checks -/

/-- What is asked of the value that is given for a provider. A field that is not given has no value. -/
inductive Check
  | object (v : Value)
  | urlPattern (given : Option Value)
  | complete (given : Option Value)
  | list (field : Field) (given : Option Value)
  | text (field : Field) (entry : Value)
  | compiles (field : Field) (entry : Value)
  /-- The pattern has a group for the target of a redirection. -/
  | group (entry : Value)

namespace Check

/-- The check fails with a fault. -/
inductive Fails : Check → Provider.Fault → Prop
  | object {v : Value} : (∀ fields, v ≠ .object fields) → Fails (.object v) (.notAnObject v.kind)
  | urlPattern {given : Option Value} : (∀ v, given = some v → v.isVoid = true) → Fails (.urlPattern given) .noUrlPattern
  | complete {v : Value} : (∀ b, v ≠ .bool b) → Fails (.complete (some v)) .completeNotBoolean
  | list {field : Field} {v : Value} : v ≠ .null → (∀ items, v ≠ .list items) →
      Fails (.list field (some v)) (.notAList field)
  | text {field : Field} {v : Value} : (∀ t, v ≠ .text t) → Fails (.text field v) (.entryNotText field v.kind)
  | compiles {field : Field} {t : Text} {f : Pattern.Fault} : Pattern.compile (unescape t) = .error f →
      Fails (.compiles field (.text t)) (.badPattern field t f)
  | group {t : Text} {p : Pattern} : Spells t p → p.groups = 0 → Fails (.group (.text t)) (.noGroup t)

def Passes (c : Check) : Prop := ∀ f, ¬ c.Fails f

/-- The fault is that of the first check to fail. -/
def FirstFails (cs : List Check) (f : Provider.Fault) : Prop :=
  ∃ before c after, cs = before ++ c :: after ∧ (∀ b ∈ before, b.Passes) ∧ c.Fails f

end Check

namespace Provider

/-- The entries of a field. -/
def itemsOf : Option Value → List Value
  | some (.list items) => items
  | _ => []

def entryChecks (field : Field) (v : Value) : List Check := [.text field v, .compiles field v]

def targetChecks (v : Value) : List Check := entryChecks .redirections v ++ [.group v]

/-- The checks of a field that is a list, with those of its entries. -/
def listChecks (fields : Fields) (field : Field) (ofEntry : Value → List Check) : List Check :=
  .list field (fields.get? field.key) :: (itemsOf (fields.get? field.key)).flatMap ofEntry

/-- The checks of an object's fields, in their order. -/
def fieldChecks (fields : Fields) : List Check :=
  [.urlPattern (fields.get? Field.urlPattern.key), .complete (fields.get? "completeProvider".toList)] ++
  [Field.rules, .referralMarketing, .rawRules, .exceptions].flatMap
    (fun field => listChecks fields field (entryChecks field)) ++
  listChecks fields .redirections targetChecks ++
  (fields.get? Field.urlPattern.key).toList.flatMap (entryChecks .urlPattern)

/-- The checks of the value that is given for a provider, in their order. -/
def checks (v : Value) : List Check :=
  .object v :: match v with
    | .object fields => fieldChecks fields
    | _ => []

end Provider

/-! ## The first of some checks to fail -/

namespace Check

variable {c : Check} {cs ds : List Check} {f : Provider.Fault} {field : Field} {v : Value}

theorem text_fails : (text field v).Fails f ↔ (∀ t, v ≠ .text t) ∧ .entryNotText field v.kind = f := by
  constructor
  · rintro ⟨⟩
    exact ⟨‹_›, rfl⟩
  · rintro ⟨notText, rfl⟩
    exact .text notText

theorem compiles_fails : (compiles field v).Fails f ↔
    ∃ t e, v = .text t ∧ Pattern.compile (unescape t) = .error e ∧ .badPattern field t e = f := by
  constructor
  · rintro ⟨⟩
    exact ⟨_, _, rfl, ‹_›, rfl⟩
  · rintro ⟨t, e, rfl, fails, rfl⟩
    exact .compiles fails

theorem group_fails : (group v).Fails f ↔ ∃ t p, v = .text t ∧ Spells t p ∧ p.groups = 0 ∧ .noGroup t = f := by
  constructor
  · rintro ⟨⟩
    exact ⟨_, _, rfl, ‹_›, ‹_›, rfl⟩
  · rintro ⟨t, p, rfl, spelt, none, rfl⟩
    exact .group spelt none

@[simp] theorem firstFails_nil : ¬ FirstFails [] f := by
  rintro ⟨before, c, after, h, _⟩
  cases before <;> cases h

@[simp] theorem firstFails_cons : FirstFails (c :: cs) f ↔ c.Fails f ∨ c.Passes ∧ FirstFails cs f := by
  constructor
  · rintro ⟨before, d, after, h, passed, fails⟩
    cases before with
    | nil =>
      obtain ⟨rfl, rfl⟩ := List.cons.inj h
      exact Or.inl fails
    | cons b before =>
      obtain ⟨rfl, rfl⟩ := List.cons.inj h
      obtain ⟨first, rest⟩ := List.forall_mem_cons.mp passed
      exact Or.inr ⟨first, before, d, after, rfl, rest, fails⟩
  · rintro (fails | ⟨first, before, d, after, rfl, passed, fails⟩)
    · exact ⟨[], c, cs, rfl, nofun, fails⟩
    · exact ⟨c :: before, d, after, rfl, List.forall_mem_cons.mpr ⟨first, passed⟩, fails⟩

theorem firstFails_append :
    FirstFails (cs ++ ds) f ↔ FirstFails cs f ∨ (∀ c ∈ cs, c.Passes) ∧ FirstFails ds f := by
  induction cs with
  | nil => simp
  | cons c cs ih =>
    rw [List.cons_append, firstFails_cons, firstFails_cons, ih, List.forall_mem_cons]
    tauto

/-- Some checks all pass, or one of them is the first to fail. -/
theorem pass_or_firstFails (cs : List Check) : (∀ c ∈ cs, c.Passes) ∨ ∃ f, FirstFails cs f := by
  induction cs with
  | nil => exact Or.inl nofun
  | cons c cs ih =>
    by_cases hc : c.Passes
    · rcases ih with all | ⟨f, fails⟩
      · exact Or.inl (List.forall_mem_cons.mpr ⟨hc, all⟩)
      · exact Or.inr ⟨f, firstFails_cons.mpr (Or.inr ⟨hc, fails⟩)⟩
    · obtain ⟨f, fails⟩ := not_forall_not.mp hc
      exact Or.inr ⟨f, firstFails_cons.mpr (Or.inl fails)⟩

/-- What is read fails just as the first of some checks to fail. -/
def Finds {α : Type} (cs : List Check) (x : Except Provider.Fault α) : Prop := ∀ f, x = .error f ↔ FirstFails cs f

namespace Finds

variable {α β : Type} {x : Except Provider.Fault α}

theorem nil (a : α) : Finds [] (.ok a) := by
  intro f
  simp

theorem single (h : ∀ f, x = .error f ↔ c.Fails f) : Finds [c] x := by
  intro f
  simp [h f]

theorem cons (passed : c.Passes) (h : Finds cs x) : Finds (c :: cs) x := by
  intro f
  simp [h f, passed f, passed]

theorem passes {a : α} (h : Finds cs x) (hx : x = .ok a) : ∀ c ∈ cs, c.Passes := by
  rcases pass_or_firstFails cs with all | ⟨f, fails⟩
  · exact all
  · have := (h f).mpr fails
    rw [hx] at this
    cases this

/-- What is read in two steps finds the faults of the first, and if there are none those of the second. -/
theorem bind {k : α → Except Provider.Fault β} (h : Finds cs x) (next : ∀ a, x = .ok a → Finds ds (k a)) :
    Finds (cs ++ ds) (x >>= k) := by
  intro f
  rw [except_bind_error, firstFails_append, h f]
  refine or_congr_right ⟨?_, ?_⟩
  · rintro ⟨a, hx, hk⟩
    exact ⟨h.passes hx, (next a hx f).mp hk⟩
  · rintro ⟨passed, fails⟩
    rcases hx : x with g | a
    · obtain ⟨before, c, after, rfl, _, hc⟩ := (h g).mp hx
      exact absurd hc (passed c (by simp) g)
    · exact ⟨a, rfl, (next a hx f).mpr fails⟩

/-- The items of a list are read one after the other. -/
theorem mapM {ofItem : α → List Check} {k : α → Except Provider.Fault β} (h : ∀ a, Finds (ofItem a) (k a))
    (l : List α) : Finds (l.flatMap ofItem) (l.mapM k) := by
  induction l with
  | nil => exact .nil []
  | cons a l ih =>
    rw [List.mapM_cons, List.flatMap_cons]
    refine (h a).bind fun b _ => ?_
    rw [← List.append_nil (l.flatMap ofItem)]
    exact ih.bind fun bs _ => .nil (b :: bs)

end Finds
end Check

/-! ## Providers -/

namespace Provider

open Check

variable {fields : Fields} {field : Field} {name : Text}

theorem finds_urlPatternValue (fields : Fields) :
    Finds [.urlPattern (fields.get? Field.urlPattern.key)] (urlPatternValue fields) := by
  refine .single fun f => ?_
  unfold urlPatternValue
  constructor
  · intro h
    split at h
    · cases h
      rename_i absent
      rw [absent]
      exact .urlPattern nofun
    · rename_i v found
      split at h <;> cases h
      rw [found]
      refine .urlPattern fun w hw => ?_
      obtain rfl := Option.some.inj hw
      assumption
  · rintro ⟨⟩
    rename_i void
    cases found : fields.get? Field.urlPattern.key with
    | none => rfl
    | some v => simp [void v found]

theorem finds_completeness (fields : Fields) :
    Finds [.complete (fields.get? "completeProvider".toList)] (completeness fields) := by
  refine .single fun f => ?_
  unfold completeness
  generalize fields.get? "completeProvider".toList = given
  constructor
  · intro h
    split at h <;> cases h
    exact .complete ‹_›
  · rintro ⟨⟩
    rename_i v notBool
    cases v with
    | bool b => exact absurd rfl (notBool b)
    | _ => rfl

theorem finds_entries (field : Field) (fields : Fields) :
    Finds [.list field (fields.get? field.key)] (entries field fields) := by
  refine .single fun f => ?_
  unfold entries
  generalize fields.get? field.key = given
  constructor
  · intro h
    split at h <;> cases h
    exact .list ‹_› ‹_›
  · rintro ⟨⟩
    rename_i v notNull notList
    cases v with
    | null => exact absurd rfl notNull
    | list items => exact absurd rfl (notList items)
    | _ => rfl

theorem entries_items {items : List Value} (h : entries field fields = .ok items) :
    itemsOf (fields.get? field.key) = items := by
  rcases entries_ok.mp h with found | ⟨rfl, absent | null⟩
  · rw [found]
    rfl
  · rw [absent]
    rfl
  · rw [null]
    rfl

theorem finds_patternOfValue (field : Field) (v : Value) : Finds (entryChecks field v) (patternOfValue field v) := by
  intro f
  cases v <;> simp [entryChecks, patternOfValue, Passes, text_fails, compiles_fails, mapError_error]

theorem finds_redirectionOfValue (name : Text) (index : Nat) (v : Value) :
    Finds (targetChecks v) (redirectionOfValue name index v) := by
  have compiled := finds_patternOfValue .redirections v
  cases v with
  | text t =>
    refine compiled.bind fun p hp => .single fun f => ?_
    obtain ⟨_, ⟨⟩, spelt⟩ := patternOfValue_ok.mp hp
    rw [group_fails]
    constructor
    · intro h
      split at h <;> cases h
      exact ⟨t, p, rfl, spelt, ‹_›, rfl⟩
    · rintro ⟨_, q, ⟨⟩, spelt', none, rfl⟩
      obtain rfl := Spells.unique spelt spelt'
      rw [if_pos none]
  | _ =>
    intro f
    rw [targetChecks, firstFails_append, ← compiled f]
    simp [group_fails, redirectionOfValue, patternOfValue]

theorem finds_patterns (field : Field) (fields : Fields) :
    Finds (listChecks fields field (entryChecks field)) (patterns field fields) := by
  refine (finds_entries field fields).bind fun items hi => ?_
  rw [entries_items hi]
  exact .mapM (finds_patternOfValue field) items

theorem finds_redirections (name : Text) (fields : Fields) :
    Finds (listChecks fields .redirections targetChecks) (Document.redirections name fields) := by
  refine (finds_entries .redirections fields).bind fun items hi => ?_
  have each := Finds.mapM (fun i : Value × Nat => finds_redirectionOfValue name i.2 i.1) items.zipIdx
  have unnumbered : items.zipIdx.flatMap (fun i => targetChecks i.1) = items.flatMap targetChecks := by
    rw [← List.flatMap_map, List.zipIdx_map_fst]
  rw [unnumbered] at each
  rw [entries_items hi]
  exact each

/-- What is read of the value that is given for a provider fails just as the first of its checks to fail. -/
theorem finds_ofValue? (name : Text) (v : Value) : Finds (checks v) (ofValue? name v) := by
  cases v with
  | object fields =>
    refine .cons (fun f h => ?_) ?_
    · cases h with
      | object notObject => exact notObject fields rfl
    simp only [fieldChecks, List.flatMap_cons, List.flatMap_nil, List.append_nil, List.append_assoc, List.cons_append,
      List.nil_append]
    refine (finds_urlPatternValue fields).bind fun url hu => ?_
    refine (finds_completeness fields).bind fun complete _ => ?_
    refine (finds_patterns .rules fields).bind fun rules _ => ?_
    refine (finds_patterns .referralMarketing fields).bind fun referral _ => ?_
    refine (finds_patterns .rawRules fields).bind fun raw _ => ?_
    refine (finds_patterns .exceptions fields).bind fun exceptions _ => ?_
    refine (finds_redirections name fields).bind fun redirections _ => ?_
    rw [(urlPatternValue_ok.mp hu).1]
    exact (finds_patternOfValue .urlPattern url).bind fun urlPattern _ => .nil _
  | _ =>
    refine .single fun f => ?_
    constructor
    · rintro ⟨⟩
      exact .object nofun
    · rintro ⟨⟩
      rfl

/-- A bad pattern is reported with its field, with its text as the document has it, and with what is wrong with it. -/
inductive Fault.Blames : Provider.Fault → Field → Text → String → Prop
  | mistake {field : Field} {t : Text} {f : Pattern.Fault} : Pattern.compile (unescape t) = .error f →
      f.isMistake = true → Blames (.badPattern field t f) field t f.message
  | noGroup {t : Text} {p : Pattern} : Spells t p → p.groups = 0 →
      Blames (.noGroup t) .redirections t "redirection needs a capture group"

theorem Fault.Blames.message {f : Provider.Fault} {t : Text} {reason : String} (h : f.Blames field t reason)
    (name : Text) : f.message name = invalidPattern name field t reason := by
  cases h with
  | mistake _ mistake => exact if_pos mistake
  | noGroup _ _ => rfl

theorem Fault.IsIn.blames {f : Provider.Fault} {v : Value} (h : f.IsIn v)
    (bad : (Ruleset.Fault.provider name f).isBadPattern = true) :
    ∃ fields field t reason, v = .object fields ∧ Writes fields field (.text t) ∧ f.Blames field t reason := by
  cases h with
  | badPattern written fails => exact ⟨_, _, _, _, rfl, written, .mistake fails bad⟩
  | noGroup written spelt none => exact ⟨_, _, _, _, rfl, written, .noGroup spelt none⟩
  | _ => cases bad

end Provider

/-! ## Documents -/

namespace Ruleset

open Check

/-- Providers of which the first faulty one has this fault are refused for it, whatever comes after. -/
theorem ofValue_of_faulty {v w : Value} {before after : Fields} {name : Text} {fault : Provider.Fault}
    (held : Holds v (before ++ (name, w) :: after)) (sound : ∀ f ∈ before, ∃ p, Provider.ofValue? f.1 f.2 = .ok p)
    (faulty : Provider.ofValue? name w = .error fault) : ofValue v = .error (.provider name fault) := by
  have each : ∀ f ∈ before, ∃ p, providerOfField f = .ok p := by
    intro f hf
    obtain ⟨p, hp⟩ := sound f hf
    exact ⟨p, mapError_ok.mpr hp⟩
  have first : providerOfField (name, w) = .error (.provider name fault) := mapError_error.mpr ⟨fault, faulty, rfl⟩
  have fails := except_mapM_first.mpr ⟨before, (name, w), after, rfl, each, first⟩
  refine except_bind_error.mpr (Or.inr ⟨_, providersValue_ok.mpr held, ?_⟩)
  exact except_bind_error.mpr (Or.inl fails)

/-- A document with providers is refused only for one of them. -/
theorem faulty_of_refused {v : Value} {providers : Fields} (decoded : v.Distinct) (held : Holds v providers)
    (refused : ∀ rules, ofValue v ≠ .ok rules) :
    ∃ before name w after fault, providers = before ++ (name, w) :: after ∧
      (∀ f ∈ before, ∃ p, Provider.ofValue? f.1 f.2 = .ok p) ∧ Provider.ofValue? name w = .error fault := by
  rcases hp : providers.mapM providerOfField with f | ps
  · obtain ⟨before, ⟨name, w⟩, after, rfl, sound, fails⟩ := except_mapM_first.mp hp
    obtain ⟨fault, faulty, _⟩ := mapError_error.mp fails
    refine ⟨before, name, w, after, fault, rfl, fun f hf => ?_, faulty⟩
    obtain ⟨p, hp⟩ := sound f hf
    exact ⟨p, mapError_ok.mp hp⟩
  · have made := ofProviders_of_distinct decoded held hp
    have read : ofValue v = .ok ⟨ps.mergeSort byName⟩ := except_bind_ok.mpr
      ⟨providers, providersValue_ok.mpr held, except_bind_ok.mpr ⟨ps, hp, mapError_ok.mpr made⟩⟩
    exact absurd read (refused _)

/-- A decoded document with providers that is not accepted is refused for the first of them that is faulty, in the order
of the document, and would be whatever came after it. The fault is the one that reading this provider ends in, which is
that of the first of its checks to fail, and of no other. If it is a bad pattern, then the message names the provider,
the field and the pattern, as the document has it. -/
theorem first_fault_reported {v : Value} {providers : Fields} (decoded : v.Distinct) (held : Holds v providers)
    (refused : ∀ rules, ofValue v ≠ .ok rules) :
    ∃ before name w after fault, providers = before ++ (name, w) :: after ∧
      (∀ f ∈ before, ∃ p, Provider.ofValue? f.1 f.2 = .ok p) ∧ Provider.ofValue? name w = .error fault ∧
      (∀ f, FirstFails (Provider.checks w) f ↔ f = fault) ∧ ofValue v = .error (.provider name fault) ∧
      (∀ other later, Holds other (before ++ (name, w) :: later) → ofValue other = .error (.provider name fault)) ∧
      ((Fault.provider name fault).isBadPattern = true →
        ∃ fields field t reason, w = .object fields ∧ Writes fields field (.text t) ∧ fault.Blames field t reason ∧
          (Fault.provider name fault).message = invalidPattern name field t reason) := by
  obtain ⟨before, name, w, after, fault, rfl, sound, faulty⟩ := faulty_of_refused decoded held refused
  have whatever : ∀ other later, Holds other (before ++ (name, w) :: later) →
      ofValue other = .error (.provider name fault) := fun other later held => ofValue_of_faulty held sound faulty
  refine ⟨before, name, w, after, fault, rfl, sound, faulty, fun f => ?_, whatever v after held, whatever, fun bad => ?_⟩
  · rw [← Provider.finds_ofValue? name w f, faulty, Except.error.injEq, eq_comm]
  · obtain ⟨fields, field, t, reason, object, written, blames⟩ := (Provider.ofValue?_fails faulty).blames bad
    exact ⟨fields, field, t, reason, object, written, blames, blames.message name⟩

/-- The shop's URL pattern, the first of its fields, is a group that never ends, as are the second of its rules and its
one exception; the provider after it is no object. -/
def faulty : Text :=
  ("\x7b\"providers\":\x7b\"ads\":\x7b\"urlPattern\":\"ads\"\x7d,\"shop\":\x7b\"urlPattern\":\"(\",\"exceptions\":[\"(\"]," ++
    "\"rules\":[\"^ref$\",\"(\\\\\\\\d\"],\"rawRules\":7\x7d,\"void\":null\x7d\x7d").toList

/-- A rule whose group never ends. -/
def unclosedRule : Provider.Fault :=
  .badPattern .rules "(\\\\d".toList (.mistake .unterminatedGroup (some ⟨0, none⟩))

/-- It is refused for the shop's second rule, which is named as it is written, with two backslashes. -/
theorem faulty_refused :
    ∃ v providers, Json.read faulty = .ok v ∧ v.Distinct ∧ Holds v providers ∧ (∀ rules, ofValue v ≠ .ok rules) ∧
      ofValue v = .error (.provider "shop".toList unclosedRule) ∧
      ∃ before w after fields, providers = before ++ ("shop".toList, w) :: after ∧ w = .object fields ∧
        (∀ f, FirstFails (Provider.checks w) f ↔ f = unclosedRule) ∧ Writes fields .rules (.text "(\\\\d".toList) ∧
        (Fault.provider "shop".toList unclosedRule).message = invalidPattern "shop".toList .rules "(\\\\d".toList
          "missing ), unterminated subpattern at position 0" := by
  have refused : ofText faulty = .error (.provider "shop".toList unclosedRule) := by decide +kernel
  rcases except_bind_error.mp refused with unread | ⟨v, hv, refused⟩
  · obtain ⟨_, _, ⟨⟩⟩ := mapError_error.mp unread
  have read := mapError_ok.mp hv
  have decoded := Json.read_distinct read
  rcases except_bind_error.mp refused with none | ⟨providers, hp, _⟩
  · unfold providersValue at none
    split at none
    · split at none <;> cases none
    · cases none
  have held := providersValue_ok.mp hp
  have notRead : ∀ rules, ofValue v ≠ .ok rules := by
    intro rules h
    rw [h] at refused
    cases refused
  obtain ⟨before, name, w, after, fault, rfl, _, _, first, told, _, bad⟩ := first_fault_reported decoded held notRead
  obtain ⟨rfl, rfl⟩ := Fault.provider.inj (Except.error.inj (told.symm.trans refused))
  obtain ⟨fields, field, t, reason, object, written, blames, message⟩ := bad rfl
  cases blames
  refine ⟨v, _, read, decoded, held, notRead, told, before, w, after, fields, rfl, object, first, written, ?_⟩
  exact message

end Ruleset
end Untrack
