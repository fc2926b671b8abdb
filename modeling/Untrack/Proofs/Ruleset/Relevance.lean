/-
  Untrack.Proofs.Ruleset.Relevance — what of a document matters (`only_known_fields_count`). Documents are alike if
  they have the same providers, in whatever order, and say the same of each in the fields that count, in whatever order
  and whatever else they say (`Document.Alike`). Alike documents have the same rules, or both have none. If they are
  alike but for the exceptions, their rules clean every URL in the same way.

  A provider is made of what is found under its known names (`ofValue?_of_alike`), and the rules of a document are made
  of its providers, found under theirs (`exists_alike`). That providers are taken in the order of their names, and not
  in that of the document, makes two such rule sets one (`providers_of_alike`).
-/

import Untrack.Proofs.Ruleset.Handmade
import Untrack.Proofs.Ruleset.Reading
import Untrack.Sanitizer

namespace Untrack

open Json (Value Fields)

theorem Json.Fields.get?_eq_some_iff {fields : Fields} (distinct : fields.names.Nodup) {name : Text} {v : Value} :
    fields.get? name = some v ↔ (name, v) ∈ fields := by
  refine ⟨Fields.mem_of_get?, fun h => ?_⟩
  induction fields with
  | nil => cases h
  | cons f fields ih =>
    obtain ⟨new, rest⟩ := List.nodup_cons.mp distinct
    rw [Fields.get?, List.lookup_cons]
    rcases List.mem_cons.mp h with rfl | h
    · simp
    · have other : name ≠ f.1 := by
        rintro rfl
        exact new (List.mem_map.mpr ⟨_, h, rfl⟩)
      simp only [beq_eq_false_iff_ne.mpr other]
      exact ih rest h

/-- The order of the fields does not count. -/
theorem Json.Fields.get?_perm {f g : Fields} (distinct : f.names.Nodup) (h : f.Perm g) {name : Text} :
    f.get? name = g.get? name := by
  refine Option.ext fun v => ?_
  rw [get?_eq_some_iff distinct, get?_eq_some_iff ((h.map _).nodup_iff.mp distinct), h.mem_iff]

/-! ## Documents that are alike -/

namespace Document

variable (counts : Field → Prop)

/-- The values say the same of a provider, as far as fields count. -/
inductive AlikeProvider : Value → Value → Prop
  | same (v : Value) : AlikeProvider v v
  | objects {f g : Fields} (fields : ∀ field, counts field → f.get? field.key = g.get? field.key)
      (complete : f.get? "completeProvider".toList = g.get? "completeProvider".toList) :
      AlikeProvider (.object f) (.object g)

/-- The values have the same providers and say the same of each. -/
inductive AlikeProviders : Value → Value → Prop
  | same (v : Value) : AlikeProviders v v
  | objects {f g : Fields} (each : ∀ name, Option.Rel (AlikeProvider counts) (f.get? name) (g.get? name)) :
      AlikeProviders (.object f) (.object g)

/-- The documents are alike, as far as fields count. -/
inductive Alike : Value → Value → Prop
  | same (v : Value) : Alike v v
  | objects {f g : Fields} (providers : Option.Rel (AlikeProviders counts) (f.get? "providers".toList)
      (g.get? "providers".toList)) : Alike (.object f) (.object g)

variable {counts} {v w : Value} {name : Text} {p q : Provider}

theorem AlikeProvider.symm (h : AlikeProvider counts v w) : AlikeProvider counts w v := by
  cases h with
  | same => exact .same _
  | objects fields complete => exact .objects (fun field hf => (fields field hf).symm) complete.symm

theorem AlikeProviders.symm (h : AlikeProviders counts v w) : AlikeProviders counts w v := by
  cases h with
  | same => exact .same _
  | @objects f g each =>
    refine .objects fun name => ?_
    have alike := each name
    revert alike
    rcases f.get? name with _ | _ <;> rcases g.get? name with _ | _ <;> rintro ⟨⟩
    · exact .none
    · exact .some (AlikeProvider.symm ‹_›)

theorem Alike.symm (h : Alike counts v w) : Alike counts w v := by
  cases h with
  | same => exact .same _
  | @objects f g providers =>
    refine .objects ?_
    revert providers
    rcases f.get? "providers".toList with _ | _ <;> rcases g.get? "providers".toList with _ | _ <;> rintro ⟨⟩
    · exact .none
    · exact .some (AlikeProviders.symm ‹_›)

/-- A provider found in one of two alike objects is found in the other. -/
theorem alike_of_get? {f g : Fields} (h : AlikeProviders counts (.object f) (.object g)) (hv : f.get? name = some v) :
    ∃ w, g.get? name = some w ∧ AlikeProvider counts v w := by
  cases h with
  | same => exact ⟨v, hv, .same v⟩
  | objects each =>
    have alike := each name
    rw [hv] at alike
    generalize g.get? name = found at alike
    cases alike with
    | some alike => exact ⟨_, rfl, alike⟩

/-- The providers of one of two alike documents are alike those of the other. -/
theorem Alike.holds {providers : Fields} (h : Alike counts v w) (hv : Holds v providers) :
    ∃ providers', Holds w providers' ∧ AlikeProviders counts (.object providers) (.object providers') := by
  cases h with
  | same => exact ⟨providers, hv, .same _⟩
  | @objects f g alike =>
    obtain ⟨root, object, found⟩ := hv
    cases object
    rw [found] at alike
    generalize under : g.get? "providers".toList = found' at alike
    cases alike with
    | some alike =>
      cases alike with
      | same => exact ⟨providers, ⟨g, rfl, under⟩, .same _⟩
      | objects each => exact ⟨_, ⟨g, rfl, under⟩, .objects each⟩

end Document

open Document

/-- With all fields counted, the same comes of both. -/
theorem Provider.ofValue?_of_alike {v w : Value} (h : AlikeProvider (fun _ => True) v w) (name : Text) :
    ofValue? name v = ofValue? name w := by
  cases h with
  | same => rfl
  | objects fields complete =>
    simp only [ofValue?, urlPatternValue, completeness, patterns, Document.redirections, entries, complete,
      fields _ trivial]

/-- What is left of a provider without its exceptions. -/
def Provider.withoutExceptions (p : Provider) : Provider := { p with exceptions := [] }

/-- With the exceptions not counted, what comes of both is the same but for them. -/
theorem Provider.withoutExceptions_of_alike {v w : Value} {name : Text} {p q : Provider}
    (h : AlikeProvider (· ≠ .exceptions) v w) (hp : ofValue? name v = .ok p) (hq : ofValue? name w = .ok q) :
    p.withoutExceptions = q.withoutExceptions := by
  cases h with
  | same => rw [Except.ok.inj (hp.symm.trans hq)]
  | @objects f g fields complete =>
    -- each part that is read from a field that counts is read from the other object
    have url : urlPatternValue f = urlPatternValue g := by simp only [urlPatternValue, fields .urlPattern nofun]
    have flag : completeness f = completeness g := by simp only [completeness, complete]
    have list : ∀ field, field ≠ .exceptions → patterns field f = patterns field g := fun field counts => by
      simp only [patterns, entries, fields field counts]
    have targets : Document.redirections name f = Document.redirections name g := by
      simp only [Document.redirections, entries, fields .redirections nofun]
    rw [ofValue?, url, flag, list .rules nofun, list .referralMarketing nofun, list .rawRules nofun, targets] at hp
    simp only [except_bind_ok] at hp
    obtain ⟨u, hu, b, hb, r, hr, m, hm, raw, hraw, e, _, d, hd, pattern, hpattern, made⟩ := hp
    cases made
    simp only [ofValue?, hu, hb, hr, hm, hraw, hd, except_bind_ok, Except.ok.injEq, exists_eq_left', hpattern] at hq
    obtain ⟨_, _, made⟩ := hq
    cases made
    rfl

namespace Ruleset

variable {counts : Field → Prop} {v w : Value} {rules rules' : Ruleset}

/-! ## Rules of documents that are alike -/

/-- The rules of a document are made of its providers, whatever they are read as. -/
theorem forall₂_of_read {providers : Fields} (held : Holds v providers) (read : ofValue v = .ok rules) :
    ∃ ps, List.Forall₂ (fun f p => Provider.ofValue? f.1 f.2 = .ok p) providers ps ∧ rules.providers.Perm ps := by
  obtain ⟨found, hf, h⟩ := except_bind_ok.mp read
  obtain rfl : providers = found := Except.ok.inj ((providersValue_ok.mpr held).symm.trans hf)
  obtain ⟨ps, made, h⟩ := except_bind_ok.mp h
  have each : List.Forall₂ (fun f p => Provider.ofValue? f.1 f.2 = .ok p) providers ps :=
    List.Forall₂.imp (fun _ _ => mapError_ok.mp) (except_mapM_ok.mp made)
  exact ⟨ps, each, (ofProviders_ok_iff.mp (mapError_ok.mp h)).1⟩

/-- A provider of one of two documents that are alike is found in the other, under the same name and as one that is
alike. -/
theorem exists_alike (hv : v.Distinct) (alike : Alike counts v w) (read : ofValue v = .ok rules)
    (read' : ofValue w = .ok rules') {p : Provider} (hp : p ∈ rules.providers) :
    ∃ name u x, AlikeProvider counts u x ∧ Provider.ofValue? name u = .ok p ∧
      ∃ q ∈ rules'.providers, Provider.ofValue? name x = .ok q := by
  obtain ⟨providers, held, _⟩ := ofValue_ok.mp read
  obtain ⟨providers', held', each⟩ := alike.holds held
  obtain ⟨ps, made, perm⟩ := forall₂_of_read held read
  obtain ⟨ps', made', perm'⟩ := forall₂_of_read held' read'
  obtain ⟨⟨name, u⟩, hm, hu⟩ := exists_left_of_forall₂ made p (perm.mem_iff.mp hp)
  have names : providers.names.Nodup := by
    obtain ⟨root, rfl, under⟩ := held
    exact (hv.field under).names
  obtain ⟨x, found, same⟩ := alike_of_get? each ((Fields.get?_eq_some_iff names).mpr hm)
  obtain ⟨q, hq, hx⟩ := exists_right_of_forall₂ made' _ (Fields.mem_of_get? found)
  exact ⟨name, u, x, same, hu, q, perm'.mem_iff.mpr hq, hx⟩

/-- If two documents are alike, and providers that are alike look the same in a view, then their rules look the same in
it: both have the same providers in it, and in the order of their names. -/
theorem providers_of_alike (hv : v.Distinct) (hw : w.Distinct) (alike : Alike counts v w) (view : Provider → Provider)
    (named : ∀ p, (view p).name = p.name)
    (shown : ∀ name u x p q, AlikeProvider counts u x → Provider.ofValue? name u = .ok p →
      Provider.ofValue? name x = .ok q → view p = view q)
    (read : ofValue v = .ok rules) (read' : ofValue w = .ok rules') :
    rules.providers.map view = rules'.providers.map view := by
  have sorted : ∀ {v : Value} {rules : Ruleset}, ofValue v = .ok rules →
      (rules.providers.map view).Pairwise fun p q => p.name.Before q.name := fun read => by
    obtain ⟨_, _, from_⟩ := ofValue_ok.mp read
    rw [List.pairwise_map]
    simp only [named]
    exact List.pairwise_map.mp from_.increasing
  have differ : ∀ {ps : List Provider}, (ps.Pairwise fun p q => p.name.Before q.name) → ps.Nodup := fun h => by
    refine h.imp ?_
    rintro p _ before rfl
    exact Text.not_before_self p.name before
  have perm : (rules.providers.map view).Perm (rules'.providers.map view) := by
    refine (List.perm_ext_iff_of_nodup (differ (sorted read)) (differ (sorted read'))).mpr fun shape => ?_
    rw [List.mem_map, List.mem_map]
    constructor
    · rintro ⟨p, hp, rfl⟩
      obtain ⟨name, u, x, same, hu, q, hq, hx⟩ := exists_alike hv alike read read' hp
      exact ⟨q, hq, (shown name u x p q same hu hx).symm⟩
    · rintro ⟨q, hq, rfl⟩
      obtain ⟨name, x, u, same, hx, p, hp, hu⟩ := exists_alike hw alike.symm read' read hq
      exact ⟨p, hp, shown name u x p q same.symm hu hx⟩
  exact perm.eq_of_pairwise (fun p q _ _ h k => absurd k h.asymm) (sorted read) (sorted read')

/-- With all fields counted, a document is read if one that is alike is. -/
theorem exists_read_of_alike (hw : w.Distinct) (alike : Alike (fun _ => True) v w)
    (read : ofValue v = .ok rules) : ∃ rules', ofValue w = .ok rules' := by
  obtain ⟨providers, held, _⟩ := ofValue_ok.mp read
  obtain ⟨providers', held', each⟩ := alike.holds held
  obtain ⟨ps, made, _⟩ := forall₂_of_read held read
  have names : providers'.names.Nodup := by
    obtain ⟨root, rfl, under⟩ := held'
    exact (hw.field under).names
  have all : ∀ f ∈ providers', ∃ p, providerOfField f = .ok p := by
    rintro ⟨name, x⟩ hm
    obtain ⟨u, found, same⟩ := alike_of_get? each.symm ((Fields.get?_eq_some_iff names).mpr hm)
    obtain ⟨p, _, hp⟩ := exists_right_of_forall₂ made _ (Fields.mem_of_get? found)
    exact ⟨p, mapError_ok.mpr ((Provider.ofValue?_of_alike same name).trans hp)⟩
  obtain ⟨ps', made'⟩ := exists_forall₂ all
  have made' := except_mapM_ok.mpr made'
  exact ⟨_, except_bind_ok.mpr ⟨providers', providersValue_ok.mpr held', except_bind_ok.mpr
    ⟨ps', made', mapError_ok.mpr (ofProviders_of_distinct hw held' made')⟩⟩⟩

/-- The rules without their exceptions. -/
def withoutExceptions (rules : Ruleset) : Ruleset := ⟨rules.providers.map (·.withoutExceptions)⟩

end Ruleset

/-! ## Cleaning without exceptions -/

namespace Sanitizer

/-- What a provider makes of a URL does not depend on its exceptions, and so what the providers make of it. -/
theorem visit_withoutExceptions (follow : Text → Except CleanFault Visit) (ps : List Provider) (url : Text) :
    visit follow (ps.map (·.withoutExceptions)) url = visit follow ps url := by
  induction ps generalizing url with
  | nil => rfl
  | cons p ps ih =>
    have one : ∀ url, apply follow p.withoutExceptions url = apply follow p url := fun _ => rfl
    have concerns : p.withoutExceptions.concerns url = p.concerns url := rfl
    simp only [List.map_cons, visit, ih, one, concerns]

/-- At every level: induction on the room that is left. -/
theorem resolve_withoutExceptions (rules : Ruleset) (cap room : Nat) (url : Text) :
    resolve rules.withoutExceptions cap room url = resolve rules cap room url := by
  induction room generalizing url with
  | zero => rfl
  | succ room ih =>
    have below : resolve rules.withoutExceptions cap room = resolve rules cap room := funext ih
    rw [resolve, resolve, below, Ruleset.withoutExceptions, visit_withoutExceptions]

theorem sanitize_withoutExceptions (s : Sanitizer) (url : Text) (rules : Ruleset) :
    s.sanitize url rules.withoutExceptions = s.sanitize url rules := by
  rw [sanitize, sanitize, resolve_withoutExceptions]

end Sanitizer

namespace Ruleset

/-- Documents that differ only in the order of providers or of their fields, or in what they say under other names than
those of the known fields, are read as the same rules, or neither is read. If two documents that are read differ in
their exceptions besides, then every URL is cleaned by the rules of the one as by those of the other, with the same
result or the same fault, however deep redirections may lead. -/
theorem only_known_fields_count {v w : Value} (hv : v.Distinct) (hw : w.Distinct) :
    (Alike (fun _ => True) v w → ∀ rules, ofValue v = .ok rules ↔ ofValue w = .ok rules) ∧
      (Alike (· ≠ .exceptions) v w → ∀ rules rules', ofValue v = .ok rules → ofValue w = .ok rules' →
        ∀ (s : Sanitizer) (url : Text), s.sanitize url rules = s.sanitize url rules') := by
  refine ⟨fun alike => ?_, fun alike rules rules' read read' s url => ?_⟩
  · have same : ∀ {v w : Value} {rules : Ruleset}, v.Distinct → w.Distinct → Alike (fun _ => True) v w →
        ofValue v = .ok rules → ofValue w = .ok rules := by
      intro v w rules hv hw alike read
      obtain ⟨rules', read'⟩ := exists_read_of_alike hw alike read
      have shown := providers_of_alike hv hw alike id (fun _ => rfl) (fun name u x p q same hp hq => ?_) read read'
      · rw [List.map_id, List.map_id] at shown
        rw [read', show rules = rules' from congrArg Ruleset.mk shown]
      · exact Except.ok.inj (hp.symm.trans ((Provider.ofValue?_of_alike same name).trans hq))
    exact fun rules => ⟨same hv hw alike, same hw hv alike.symm⟩
  · have shown := providers_of_alike hv hw alike (·.withoutExceptions) (fun _ => rfl)
      (fun _ _ _ _ _ same hp hq => Provider.withoutExceptions_of_alike same hp hq) read read'
    rw [← s.sanitize_withoutExceptions url rules, ← s.sanitize_withoutExceptions url rules',
      show rules.withoutExceptions = rules'.withoutExceptions from congrArg Ruleset.mk shown]

/-- What a document says of a shop whose links lose a parameter. -/
def shopFields : Fields :=
  [("urlPattern".toList, .text "shop".toList), ("rules".toList, .list [.text "^utm_".toList])]

/-- What it says of a provider that blocks. -/
def adsFields : Fields := [("completeProvider".toList, .bool true), ("urlPattern".toList, .text "ads".toList)]

def shopThenAds : Value :=
  .object [("providers".toList, .object [("shop".toList, .object shopFields), ("ads".toList, .object adsFields)])]

/-- The same turned round, with a version, and with one more field for the shop. -/
def adsThenShop (more : Text × Value) : Value :=
  .object [("version".toList, .whole 2), ("providers".toList,
    .object [("ads".toList, .object adsFields.reverse), ("shop".toList, .object (more :: shopFields.reverse))])]

theorem shopFields_distinct : ∀ f ∈ shopFields, f.2.Distinct := by
  simp only [shopFields, List.forall_mem_cons, List.not_mem_nil, false_imp_iff, implies_true, and_true]
  exact ⟨.text _, .list (List.forall_mem_singleton.mpr (.text _))⟩

theorem adsFields_distinct : ∀ f ∈ adsFields, f.2.Distinct := by
  simp only [adsFields, List.forall_mem_cons, List.not_mem_nil, false_imp_iff, implies_true, and_true]
  exact ⟨.bool _, .text _⟩

theorem shopThenAds_distinct : shopThenAds.Distinct := by
  refine .object (by decide) (List.forall_mem_singleton.mpr (.object (by decide) ?_))
  simp only [List.forall_mem_cons, List.not_mem_nil, false_imp_iff, implies_true, and_true]
  exact ⟨.object (by decide) shopFields_distinct, .object (by decide) adsFields_distinct⟩

theorem adsThenShop_distinct {more : Text × Value} (new : more.1 ∉ Fields.names shopFields.reverse)
    (distinct : more.2.Distinct) : (adsThenShop more).Distinct := by
  have names : ∀ v w : Value, Fields.names [("ads".toList, v), ("shop".toList, w)] = ["ads".toList, "shop".toList] :=
    fun _ _ => rfl
  have root : ∀ v w : Value, Fields.names [("version".toList, v), ("providers".toList, w)] =
      ["version".toList, "providers".toList] := fun _ _ => rfl
  refine .object (by rw [root]; decide) ?_
  simp only [List.forall_mem_cons, List.not_mem_nil, false_imp_iff, implies_true, and_true]
  refine ⟨.whole _, .object (by rw [names]; decide) ?_⟩
  simp only [List.forall_mem_cons, List.not_mem_nil, false_imp_iff, implies_true, and_true]
  refine ⟨.object (by decide) fun f hf => adsFields_distinct f (List.mem_reverse.mp hf),
    .object (List.nodup_cons.mpr ⟨new, by decide⟩) (List.forall_mem_cons.mpr
      ⟨distinct, fun f hf => shopFields_distinct f (List.mem_reverse.mp hf)⟩)⟩

/-- The two are alike if the one more field does not count. -/
theorem shopThenAds_alike {counts : Field → Prop} {more : Text × Value}
    (complete : more.1 ≠ "completeProvider".toList) (other : ∀ field, counts field → more.1 ≠ field.key) :
    Alike counts shopThenAds (adsThenShop more) := by
  have unlike : ∀ {key : Text}, more.1 ≠ key →
      Fields.get? shopFields key = Fields.get? (more :: shopFields.reverse) key := by
    intro key h
    rw [Fields.get?_perm (by decide) (List.reverse_perm shopFields).symm, Fields.get?, Fields.get?, List.lookup_cons,
      beq_eq_false_iff_ne.mpr h.symm]
  refine .objects (.some (.objects fun name => ?_))
  by_cases shop : name = "shop".toList
  · subst shop
    exact .some (.objects (fun field hf => unlike (other field hf)) (unlike complete))
  · by_cases ads : name = "ads".toList
    · subst ads
      have turned : ∀ key, Fields.get? adsFields key = Fields.get? adsFields.reverse key := fun _ =>
        Fields.get?_perm (by decide) (List.reverse_perm adsFields).symm
      exact .some (.objects (fun field _ => turned field.key) (turned _))
    · have missing : ∀ v w, Fields.get? [("shop".toList, v), ("ads".toList, w)] name = none ∧
          Fields.get? [("ads".toList, w), ("shop".toList, v)] name = none := fun v w => by
        simp only [Fields.get?, List.lookup_cons, beq_eq_false_iff_ne.mpr shop, beq_eq_false_iff_ne.mpr ads,
          List.lookup_nil, and_self]
      rw [(missing _ _).1, (missing _ _).2]
      exact .none

/-- The provider that blocks. -/
def ads : Provider := { Provider.concerning "ads" "ads" with complete := true }

/-- The shop, with some exceptions. -/
def shop (exceptions : List Pattern) : Provider :=
  { Provider.concerning "shop" "shop" with rules := [.ofSource "^utm_"], exceptions }

/-- A document is read as the two, in the order of their names, if they are made of its providers in some order. -/
theorem ofValue_of_ads_shop {v : Value} {providers : Fields} {ps : List Provider} {exceptions : List Pattern}
    (held : providersValue v = .ok providers) (made : providers.mapM providerOfField = .ok ps)
    (perm : [ads, shop exceptions].Perm ps) : ofValue v = .ok ⟨[ads, shop exceptions]⟩ := by
  have increasing : (Ruleset.mk [ads, shop exceptions]).names.Pairwise Text.Before :=
    List.pairwise_pair.mpr (.rel (by decide))
  exact except_bind_ok.mpr ⟨providers, held, except_bind_ok.mpr ⟨ps, made,
    mapError_ok.mpr (ofProviders_ok_iff.mpr ⟨perm, increasing⟩)⟩⟩

/-- Turned round, with a version and a comment, the document is read as the same rules. With an exception for the shop
it is read as others, which clean alike. -/
theorem comments_and_exceptions_do_not_count :
    let noted := adsThenShop ("comment".toList, .null)
    let spared := adsThenShop ("exceptions".toList, .list [.text "help".toList])
    shopThenAds.Distinct ∧ noted.Distinct ∧ spared.Distinct ∧
      Alike (fun _ => True) shopThenAds noted ∧ Alike (· ≠ .exceptions) shopThenAds spared ∧
      ofValue shopThenAds = .ok ⟨[ads, shop []]⟩ ∧ ofValue noted = .ok ⟨[ads, shop []]⟩ ∧
      ofValue spared = .ok ⟨[ads, shop [.ofSource "help"]]⟩ ∧
      ∀ (s : Sanitizer) (url : Text),
        s.sanitize url ⟨[ads, shop []]⟩ = s.sanitize url ⟨[ads, shop [.ofSource "help"]]⟩ := by
  intro noted spared
  have distinct : noted.Distinct := adsThenShop_distinct (by decide) .null
  have distinct' : spared.Distinct := adsThenShop_distinct (by decide) (.list (List.forall_mem_singleton.mpr (.text _)))
  have alike : Alike (fun _ => True) shopThenAds noted :=
    shopThenAds_alike (by decide) fun field _ => by cases field <;> decide
  have alike' : Alike (· ≠ .exceptions) shopThenAds spared :=
    shopThenAds_alike (by decide) fun field counts => by cases field <;> first | decide | exact absurd rfl counts
  have read : ofValue shopThenAds = .ok ⟨[ads, shop []]⟩ :=
    ofValue_of_ads_shop rfl (by decide +kernel) (List.Perm.swap (shop []) ads [])
  have read' : ofValue spared = .ok ⟨[ads, shop [.ofSource "help"]]⟩ :=
    ofValue_of_ads_shop rfl (by decide +kernel) (List.Perm.refl [ads, shop [.ofSource "help"]])
  exact ⟨shopThenAds_distinct, distinct, distinct', alike, alike', read,
    ((only_known_fields_count shopThenAds_distinct distinct).1 alike _).mp read, read',
    (only_known_fields_count shopThenAds_distinct distinct').2 alike' _ _ read read'⟩

end Ruleset

end Untrack
