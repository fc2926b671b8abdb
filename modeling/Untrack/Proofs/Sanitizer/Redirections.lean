/-
  Untrack.Proofs.Sanitizer.Redirections — which of a provider's redirections decides (`first_stop_or_last_target`). All
  of them are looked for in the URL as the provider found it. One whose target is blocked or cannot be cleaned stops
  there, and so does one that has no group to hold a target; those after it have no say. If none stops, the last one
  that finds a target has the last word, and what the others led to is forgotten, but for the providers noted.

  Redirections one after the other are a computation in two parts, wherever the list is cut (`followAll_append`), and a
  part that stops is the whole of it (`followAll_of_stop`).
-/

import Untrack.Proofs.Ruleset.Handmade
import Untrack.Proofs.Sanitizer.Outcome

namespace Untrack.Sanitizer

variable {follow : Text → Except CleanFault Visit} {source t : Text} {r : Redirection} {rs front back : List Redirection}
  {v w : Visit}

/-! ## Targets -/

theorem targets_append (front back : List Redirection) (source : Text) :
    targets (front ++ back) source = targets front source ++ targets back source :=
  List.filterMap_append

/-- The last target is that of the last redirection that finds one. -/
theorem getLast?_targets (ht : target? r source = .ok (some t)) (none : ∀ q ∈ back, target? q source = .ok none)
    (front : List Redirection) : (targets (front ++ r :: back) source).getLast? = some t := by
  rw [targets_append, targets_cons_of_some ht, targets_of_none none, List.getLast?_concat]

/-! ## One part after the other -/

theorem followAll_append (hv : v.blocked = false) (front back : List Redirection) :
    followAll follow source (front ++ back) v =
      followAll follow source front v >>= fun w => if w.blocked then .ok w else followAll follow source back w := by
  induction front generalizing v with
  | nil =>
    show followAll follow source back v = if v.blocked then .ok v else followAll follow source back v
    rw [hv]
    rfl
  | cons r front ih =>
    rw [List.cons_append, followAll, followAll]
    rcases target? r source with f | _ | t
    · rfl
    · exact ih hv
    show (follow t >>= _) = (follow t >>= _) >>= _
    rcases follow t with f | x
    · rfl
    cases hb : x.blocked with
    | true => simp [bind, Except.bind, pure, Except.pure, hb]
    | false => simpa [bind, Except.bind, hb] using ih (v := { x with matched := v.matched ++ x.matched }) hb

/-- What stops before the others are looked for is all there is. -/
theorem followAll_of_stop (hv : v.blocked = false)
    (stops : ∀ w, followAll follow source front v = .ok w → w.blocked = true) (back : List Redirection) :
    followAll follow source (front ++ back) v = followAll follow source front v := by
  rw [followAll_append hv]
  rcases h : followAll follow source front v with f | w
  · rfl
  · show (if w.blocked then .ok w else followAll follow source back w) = .ok w
    rw [if_pos (stops w h)]

/-! ## Redirections that give way -/

/-- The redirection leaves it to those after it: it finds no target, or one that is cleaned and not blocked. -/
def GivesWay (follow : Text → Except CleanFault Visit) (source : Text) (r : Redirection) : Prop :=
  target? r source = .ok none ∨ ∃ t x, target? r source = .ok (some t) ∧ follow t = .ok x ∧ x.blocked = false

theorem followAll_of_givesWay (way : ∀ r ∈ rs, GivesWay follow source r) (hv : v.blocked = false) :
    ∃ w, followAll follow source rs v = .ok w ∧ w.blocked = false := by
  induction rs generalizing v with
  | nil => exact ⟨v, rfl, hv⟩
  | cons r rs ih =>
    obtain ⟨here, later⟩ := List.forall_mem_cons.mp way
    rcases here with ht | ⟨t, x, ht, hx, hb⟩
    · obtain ⟨w, hw, hwb⟩ := ih later hv
      exact ⟨w, followAll_cons_ok.mpr (Or.inl ⟨ht, hw⟩), hwb⟩
    · obtain ⟨w, hw, hwb⟩ := ih (v := { x with matched := v.matched ++ x.matched }) later hb
      refine ⟨w, followAll_cons_ok.mpr (Or.inr ⟨t, x, ht, hx, ?_⟩), hwb⟩
      rwa [if_neg (by simp [hb])]

/-- Whatever those before it led to, if they give way the next redirection is looked for. -/
theorem followAll_past (way : ∀ q ∈ front, GivesWay follow source q) (hv : v.blocked = false) :
    ∃ w, w.blocked = false ∧
      ∀ back, followAll follow source (front ++ back) v = followAll follow source back w := by
  obtain ⟨w, hw, hb⟩ := followAll_of_givesWay way hv
  refine ⟨w, hb, fun back => ?_⟩
  rw [followAll_append hv, hw]
  show (if w.blocked then .ok w else followAll follow source back w) = _
  rw [hb]
  rfl

/-- A redirection without a group for its target. -/
theorem followAll_of_noGroup (way : ∀ q ∈ front, GivesWay follow source q) (hv : v.blocked = false) {f : CleanFault}
    (ht : target? r source = .error f) (back : List Redirection) :
    followAll follow source (front ++ r :: back) v = .error f := by
  obtain ⟨w, _, past⟩ := followAll_past way hv
  rw [past, followAll, ht]
  rfl

section Stop

variable (way : ∀ q ∈ front, GivesWay follow source q) (hv : v.blocked = false)
  (ht : target? r source = .ok (some t)) (stops : ∀ x, follow t = .ok x → x.blocked = true)
include way hv ht stops

/-- A target that is blocked or cannot be cleaned decides, with those noted before it. -/
theorem followAll_of_target (back : List Redirection) :
    ∃ names, followAll follow source (front ++ r :: back) v =
      (follow t).map fun x => { x with matched := names ++ x.matched } := by
  obtain ⟨w, _, past⟩ := followAll_past way hv
  refine ⟨w.matched, ?_⟩
  rw [past, followAll, ht]
  show (follow t >>= _) = _
  rcases hx : follow t with f | x
  · rfl
  · simp [bind, Except.bind, pure, Except.pure, Except.map, stops x hx]

theorem url_of_target (back : List Redirection) :
    (followAll follow source (front ++ r :: back) v).map (·.url) = (follow t).map (·.url) := by
  obtain ⟨names, whole⟩ := followAll_of_target way hv ht stops back
  rw [whole]
  cases follow t <;> rfl

theorem blocked_of_target (h : followAll follow source (front ++ r :: back) v = .ok w) :
    w.blocked = true ∧ ∃ x, follow t = .ok x ∧ w.url = x.url := by
  obtain ⟨names, whole⟩ := followAll_of_target way hv ht stops back
  rw [whole, except_map_ok] at h
  obtain ⟨x, hx, rfl⟩ := h
  exact ⟨stops x hx, x, hx, rfl⟩

end Stop

/-! ## The last target -/

theorem followAll_of_none (h : ∀ r ∈ rs, target? r source = .ok none) (v : Visit) :
    followAll follow source rs v = .ok v := by
  induction rs with
  | nil => rfl
  | cons r rs ih =>
    exact followAll_cons_ok.mpr (Or.inl ⟨h r List.mem_cons_self, ih fun q hq => h q (List.mem_cons_of_mem _ hq)⟩)

/-- The last redirection that is found decides, if one is. -/
theorem followAll_cases (h : followAll follow source rs v = .ok w) (hb : w.blocked = false) :
    (w = v ∧ ∀ r ∈ rs, target? r source = .ok none) ∨
      ∃ r target x, target? r source = .ok (some target) ∧ (targets rs source).getLast? = some target ∧
        follow target = .ok x ∧ x.blocked = false ∧ w.url = x.url := by
  induction rs generalizing v with
  | nil => exact Or.inl ⟨followAll_nil_ok.mp h, fun _ hr => nomatch hr⟩
  | cons r rs ih =>
    rcases followAll_cons_ok.mp h with ⟨ht, h⟩ | ⟨target, x, ht, hx, h⟩
    · rw [targets_cons_of_none ht]
      rcases ih h with ⟨same, none⟩ | found
      · exact Or.inl ⟨same, List.forall_mem_cons.mpr ⟨ht, none⟩⟩
      · exact Or.inr found
    · right
      rw [targets_cons_of_some ht]
      split at h
      · subst h
        rw [‹x.blocked = true›] at hb
        cases hb
      · rcases ih h with ⟨rfl, none⟩ | ⟨r', target', y, ht', last, found⟩
        · exact ⟨r, target, x, ht, by rw [targets_of_none none]; rfl, hx, hb, rfl⟩
        · exact ⟨r', target', y, ht', by rw [List.getLast?_cons, last]; rfl, found⟩

/-- If all give way, what is left is what the last target is cleaned to. -/
theorem followAll_of_last (way : ∀ q ∈ front ++ r :: back, GivesWay follow source q) (hv : v.blocked = false)
    (ht : target? r source = .ok (some t)) (none : ∀ q ∈ back, target? q source = .ok none) :
    ∃ w, followAll follow source (front ++ r :: back) v = .ok w ∧ w.blocked = false ∧
      (follow t).map (·.url) = .ok w.url := by
  obtain ⟨w, hw, hb⟩ := followAll_of_givesWay way hv
  refine ⟨w, hw, hb, ?_⟩
  have last := getLast?_targets ht none front
  rcases followAll_cases hw hb with ⟨_, nowhere⟩ | ⟨_, t', x, _, last', hx, _, same⟩
  · rw [targets_of_none nowhere] at last
    cases last
  · rw [last] at last'
    cases last'
    rw [hx, same]
    rfl

/-! ## At a depth -/

/-- Cleaning one level deeper than a depth has one level less left. -/
theorem clean_succ (s : Sanitizer) (t : Text) (rules : Ruleset) (depth : Int) :
    s.clean t rules (depth + 1) = (resolve rules s.cap (s.cap - depth).toNat t).map (·.url) := by
  have levels : (s.cap + 1 - (depth + 1)).toNat = (s.cap - depth).toNat := by omega
  unfold clean
  rw [levels]
  cases resolve rules s.cap (s.cap - depth).toNat t <;> rfl

/-- What a provider's redirections make of a URL, at any depth and under any cap. If none of them finds a target, the
URL stays as it is. The first one whose target is blocked or cannot be cleaned one level deeper decides: the URL is
blocked and nothing is left of it, or the fault is that of the target, and the redirections after it might as well not
be there. (So it is with one that has no group to hold a target.) If there is no such redirection, what is left is what
the last target is cleaned to one level deeper, whichever of the other redirections are taken away. -/
theorem first_stop_or_last_target (s : Sanitizer) (rules : Ruleset) (depth : Int) (p : Provider) (url : Text)
    (noted : List Text) :
    let follow := resolve rules s.cap (s.cap - depth).toNat
    let step := fun rs => followAll follow url rs ⟨url, noted, false⟩
    ((∀ r ∈ p.redirections, target? r url = .ok none) → step p.redirections = .ok ⟨url, noted, false⟩) ∧
    (∀ front r back, p.redirections = front ++ r :: back → (∀ q ∈ front, GivesWay follow url q) →
      (∀ f, target? r url = .error f → step p.redirections = .error f) ∧
      ∀ t, target? r url = .ok (some t) → (∀ x, follow t = .ok x → x.blocked = true) →
        (step p.redirections).map (·.url) = s.clean t rules (depth + 1) ∧
        (∀ w, step p.redirections = .ok w → w.blocked = true ∧ w.url = []) ∧
        step p.redirections = step (front ++ [r])) ∧
    ((∀ r ∈ p.redirections, GivesWay follow url r) →
      ∀ front r back t, p.redirections = front ++ r :: back → target? r url = .ok (some t) →
        (∀ q ∈ back, target? q url = .ok none) →
        ∀ front' back' : List Redirection, front'.Sublist front → back'.Sublist back →
          ∃ w, step (front' ++ r :: back') = .ok w ∧ w.blocked = false ∧ s.clean t rules (depth + 1) = .ok w.url) := by
  intro follow step
  refine ⟨fun none => followAll_of_none none _, fun front r back cut way => ?_, fun way front r back t cut => ?_⟩
  · rw [cut]
    refine ⟨fun f ht => followAll_of_noGroup way rfl ht back, fun t ht stops => ⟨?_, fun w hw => ?_, ?_⟩⟩
    · rw [clean_succ]
      exact url_of_target way rfl ht stops back
    · obtain ⟨hb, x, hx, same⟩ := blocked_of_target way rfl ht stops hw
      exact ⟨hb, same.trans (resolve_blocked_url hx (stops x hx))⟩
    · have alone : ∀ w, step (front ++ [r]) = .ok w → w.blocked = true := fun w hw =>
        (blocked_of_target way rfl ht stops hw).1
      rw [List.append_cons]
      exact followAll_of_stop rfl alone back
  · intro ht none front' back' fewer fewer'
    rw [clean_succ]
    refine followAll_of_last (fun q hq => way q ?_) rfl ht fun q hq => none q (fewer'.subset hq)
    rw [cut]
    exact (fewer.append (fewer'.cons_cons r)).subset hq

def signToA : Redirection := ⟨"sign#0".toList, .ofSource "a=([^&]*)"⟩

def signToB : Redirection := ⟨"sign#1".toList, .ofSource "b=([^&]*)"⟩

def signToC : Redirection := ⟨"sign#2".toList, .ofSource "c=([^&]*)"⟩

/-- A sign that may point to three places. -/
def sign : Provider := { Provider.concerning "sign" "//sign\\." with redirections := [signToA, signToB, signToC] }

def signAndTracker : Ruleset := ⟨[sign, { Provider.concerning "tracker" "^https://track" with complete := true }]⟩

/-- A sign that points nowhere; one whose second place is a tracker's, with a third after it; and one that points to two
places, of which the second counts, also without the first. -/
theorem sign_followed :
    let follow := resolve signAndTracker standard.cap (standard.cap - (0 : Int)).toNat
    let step := fun url rs => followAll follow url rs ⟨url, [], false⟩
    let blank := "http://sign.example/".toList
    let tracked := "http://sign.example/?a=http://x.example&b=https%3A%2F%2Ftrack.example&c=http://y.example".toList
    let twofold := "http://sign.example/?a=http://x.example&b=http%3A%2F%2Fy.example%2F".toList
    (∀ r ∈ sign.redirections, target? r blank = .ok none) ∧ step blank sign.redirections = .ok ⟨blank, [], false⟩ ∧
      (∀ r ∈ [signToA], GivesWay follow tracked r) ∧ ¬ GivesWay follow tracked signToB ∧
      (step tracked sign.redirections).map (·.url) = standard.clean "https://track.example".toList signAndTracker 1 ∧
      (∀ w, step tracked sign.redirections = .ok w → w.blocked = true ∧ w.url = []) ∧
      step tracked sign.redirections = step tracked [signToA, signToB] ∧
      (∀ r ∈ sign.redirections, GivesWay follow twofold r) ∧
      ∃ w, step twofold [signToB] = .ok w ∧ w.blocked = false ∧
        standard.clean "http://y.example/".toList signAndTracker 1 = .ok w.url := by
  intro follow step blank tracked twofold
  have nowhere : ∀ r ∈ sign.redirections, target? r blank = .ok none := by decide +kernel
  have toTracker : target? signToB tracked = .ok (some "https://track.example".toList) := by decide +kernel
  have tracker : follow "https://track.example".toList = .ok ⟨[], ["tracker".toList], true⟩ := by decide +kernel
  have stops : ∀ x, follow "https://track.example".toList = .ok x → x.blocked = true := fun x hx => by
    rw [tracker] at hx
    cases hx
    rfl
  have toX : ∀ url ∈ [tracked, twofold], target? signToA url = .ok (some "http://x.example".toList) := by decide +kernel
  have x : follow "http://x.example".toList = .ok ⟨"http://x.example".toList, [], false⟩ := by decide +kernel
  have toY : target? signToB twofold = .ok (some "http://y.example/".toList) := by decide +kernel
  have y : follow "http://y.example/".toList = .ok ⟨"http://y.example".toList, [], false⟩ := by decide +kernel
  have toC : ∀ q ∈ [signToC], target? q twofold = .ok none := by decide +kernel
  have first : ∀ r ∈ [signToA], GivesWay follow tracked r :=
    List.forall_mem_singleton.mpr (Or.inr ⟨_, _, toX tracked (by simp), x, rfl⟩)
  have all : ∀ r ∈ sign.redirections, GivesWay follow twofold r := by
    refine List.forall_mem_cons.mpr ⟨Or.inr ⟨_, _, toX twofold (by simp), x, rfl⟩, ?_⟩
    refine List.forall_mem_cons.mpr ⟨Or.inr ⟨_, _, toY, y, rfl⟩, ?_⟩
    exact fun q hq => Or.inl (toC q hq)
  have second : ¬ GivesWay follow tracked signToB := by
    rintro (h | ⟨t, v, ht, hv, hb⟩)
    · rw [toTracker] at h
      cases h
    · rw [toTracker] at ht
      cases ht
      rw [stops v hv] at hb
      cases hb
  obtain ⟨none, _, _⟩ := first_stop_or_last_target standard signAndTracker 0 sign blank []
  obtain ⟨_, stop, _⟩ := first_stop_or_last_target standard signAndTracker 0 sign tracked []
  obtain ⟨_, _, last⟩ := first_stop_or_last_target standard signAndTracker 0 sign twofold []
  obtain ⟨same, blocked, alone⟩ := (stop [signToA] signToB [signToC] rfl first).2 _ toTracker stops
  exact ⟨nowhere, none nowhere, first, second, same, blocked, alone, all,
    last all [signToA] signToB [signToC] _ rfl toY toC [] [] (List.nil_sublist _) (List.nil_sublist _)⟩

end Untrack.Sanitizer
