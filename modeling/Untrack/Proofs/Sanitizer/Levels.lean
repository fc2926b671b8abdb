/-
  Untrack.Proofs.Sanitizer.Levels — the limit on levels cuts runs off and changes no result (`cap_only_cuts_off`).
  With more levels left, whatever the cap, a URL is cleaned to what it was cleaned to, or fails as it failed, unless
  it had run out of levels. With as many levels left it runs out of them at the same URL, and only the cap that the
  fault tells is another. So a depth to start from counts as so many levels less.

  Two runs are compared by `Prolongs`, which is kept when one thing is done after the other (`Prolongs.bind`); from
  there the comparison follows the program, from the redirections of a provider up to the levels.
-/

import Untrack.Proofs.Ruleset.Handmade
import Untrack.Proofs.Sanitizer.Visit

namespace Untrack

/-- The fault with another cap, if it is one of too many levels. -/
def CleanFault.withCap (cap : Nat) : CleanFault → CleanFault
  | .redirectLoop url _ => .redirectLoop url cap
  | f => f

namespace Sanitizer

variable {α β : Type} {cap extra : Nat}

/-! ## Two runs -/

/-- `y` is what `x` comes to under a cap and with so many levels more: the same, unless levels ran out in `x`; if there
are no more of them, they run out in `y` as well. -/
def Prolongs (cap extra : Nat) : (x y : Except CleanFault α) → Prop
  | .error (.redirectLoop url _), y => extra = 0 → y = .error (.redirectLoop url cap)
  | x, y => y = x

theorem prolongs_ok {a : α} {y : Except CleanFault α} : Prolongs cap extra (.ok a) y ↔ y = .ok a := Iff.rfl

theorem prolongs_self {x : Except CleanFault α} (h : ∀ url c, x ≠ .error (.redirectLoop url c)) :
    Prolongs cap extra x x := by
  rcases x with (_ | ⟨url, c⟩ | _) | a
  · rfl
  · exact absurd rfl (h url c)
  · rfl
  · rfl

/-- A run in which levels did not run out is not changed by having more of them. -/
theorem Prolongs.eq {x y : Except CleanFault α} (p : Prolongs cap extra x y)
    (h : ∀ url c, x ≠ .error (.redirectLoop url c)) : y = x := by
  rcases x with (_ | ⟨url, c⟩ | _) | a
  · exact p
  · exact absurd rfl (h url c)
  · exact p
  · exact p

/-- With as many levels left only the cap can differ. -/
theorem Prolongs.eq_withCap {x y : Except CleanFault α} (p : Prolongs cap 0 x y) :
    y = x.mapError (·.withCap cap) := by
  rcases x with (_ | ⟨url, c⟩ | _) | a
  · exact p
  · exact p rfl
  · exact p
  · exact p

/-- What is done after two runs that compare, and compares itself, leaves runs that compare. -/
theorem Prolongs.bind {x y : Except CleanFault α} {k l : α → Except CleanFault β} (p : Prolongs cap extra x y)
    (q : ∀ a, Prolongs cap extra (k a) (l a)) : Prolongs cap extra (x >>= k) (y >>= l) := by
  rcases x with (_ | ⟨url, c⟩ | _) | a
  · rw [show y = _ from p]
    rfl
  · intro none
    rw [p none]
    rfl
  · rw [show y = _ from p]
    rfl
  · rw [prolongs_ok.mp p]
    exact q a

/-! ## From redirections to levels -/

variable {follow follow' : Text → Except CleanFault Visit}

theorem target?_ne_loop (r : Redirection) (source url : Text) (c : Nat) :
    target? r source ≠ .error (.redirectLoop url c) := by
  unfold target?
  intro h
  split at h
  · cases h
  · split at h <;> cases h

theorem cleanQuery_ne_loop (p : Provider) (u url : Text) (c : Nat) :
    cleanQuery p u ≠ .error (.redirectLoop url c) := by
  unfold cleanQuery
  intro h
  rcases hq : Query.clean p.removalPatterns u with reason | t <;> rw [hq] at h <;> cases h

theorem followAll_prolongs (hf : ∀ t, Prolongs cap extra (follow t) (follow' t)) (source : Text)
    (rs : List Redirection) (v : Visit) :
    Prolongs cap extra (followAll follow source rs v) (followAll follow' source rs v) := by
  induction rs generalizing v with
  | nil => rfl
  | cons r rs ih =>
    rw [followAll, followAll]
    refine (prolongs_self (target?_ne_loop r source)).bind fun t => ?_
    cases t with
    | none => exact ih v
    | some target =>
      refine (hf target).bind fun w => ?_
      dsimp only
      split
      · rfl
      · exact ih _

theorem apply_prolongs (hf : ∀ t, Prolongs cap extra (follow t) (follow' t)) (p : Provider) (url : Text) :
    Prolongs cap extra (apply follow p url) (apply follow' p url) := by
  unfold apply
  split
  · rfl
  refine (followAll_prolongs hf url _ _).bind fun v => ?_
  split
  · rfl
  exact (prolongs_self (cleanQuery_ne_loop p v.url)).bind fun u => rfl

theorem visit_prolongs (hf : ∀ t, Prolongs cap extra (follow t) (follow' t)) (ps : List Provider) (url : Text) :
    Prolongs cap extra (visit follow ps url) (visit follow' ps url) := by
  induction ps generalizing url with
  | nil => rfl
  | cons p ps ih =>
    rw [visit, visit]
    split
    · exact ih url
    refine (apply_prolongs hf p url).bind fun v => ?_
    split
    · rfl
    exact (ih v.url).bind fun w => rfl

/-- So many more levels prolong a run: induction on those that it has. -/
theorem resolve_prolongs (rules : Ruleset) (cap cap' extra room : Nat) (url : Text) :
    Prolongs cap' extra (resolve rules cap room url) (resolve rules cap' (room + extra) url) := by
  induction room generalizing url with
  | zero =>
    intro none
    rw [none]
    rfl
  | succ n ih =>
    rw [Nat.succ_add]
    exact visit_prolongs ih rules.providers url

/-! ## Caps -/

/-- A greater cap, where levels do not run out, changes neither a result nor a fault. Cleaning from a depth on is
cleaning with a cap that is so much smaller, but for the cap that a fault of too many levels tells. -/
theorem cap_only_cuts_off (rules : Ruleset) (url : Text) :
    (∀ k k' : Nat, k ≤ k' → (∀ v c, sanitize ⟨k⟩ url rules ≠ .error (.redirectLoop v c)) →
      sanitize ⟨k'⟩ url rules = sanitize ⟨k⟩ url rules) ∧
    ∀ d m : Nat, d ≤ m →
      clean ⟨m⟩ url rules d = (clean ⟨m - d⟩ url rules 0).mapError (·.withCap m) := by
  constructor
  · intro k k' h enough
    obtain ⟨extra, rfl⟩ := Nat.exists_eq_add_of_le h
    have levels : k + extra + 1 = k + 1 + extra := by omega
    have prolongs : Prolongs (k + extra) extra (sanitize ⟨k⟩ url rules) (sanitize ⟨k + extra⟩ url rules) := by
      unfold sanitize
      dsimp only
      rw [levels]
      exact (resolve_prolongs rules k (k + extra) extra (k + 1) url).bind fun v => rfl
    exact prolongs.eq enough
  · intro d m h
    have left : ((m : Int) + 1 - d).toNat = m - d + 1 := by omega
    have start : (((m - d : Nat) : Int) + 1 - 0).toNat = m - d + 1 := by omega
    have prolongs : Prolongs m 0 (clean ⟨m - d⟩ url rules 0) (clean ⟨m⟩ url rules d) := by
      unfold clean
      dsimp only
      rw [left, start]
      exact (resolve_prolongs rules (m - d) m 0 (m - d + 1) url).bind fun v => rfl
    exact prolongs.eq_withCap

/-- A shop whose links lead to what they name. -/
def relay : Ruleset := ⟨[
  { Provider.concerning "shop" "shop\\." with redirections := [⟨"shop#0".toList, .ofSource "to=(.*)"⟩] }]⟩

/-- A link to a link to a page: two levels down are enough, and from the first level on one is not. -/
theorem relayed_under_greater_cap :
    let url := "http://shop.example/?to=http://shop.example/?to=http://page.example/".toList
    (∀ v c, sanitize ⟨2⟩ url relay ≠ .error (.redirectLoop v c)) ∧
      sanitize ⟨7⟩ url relay =
        .ok ⟨.cleaned, url, "http://page.example".toList, ["shop".toList, "shop".toList]⟩ ∧
      clean ⟨2⟩ url relay 1 = .error (.redirectLoop "http://page.example/".toList 2) ∧
      clean ⟨1⟩ url relay 0 = .error (.redirectLoop "http://page.example/".toList 1) ∧
      clean ⟨2⟩ url relay 1 = (clean ⟨1⟩ url relay 0).mapError (·.withCap 2) := by
  intro url
  have run : sanitize ⟨2⟩ url relay =
      .ok ⟨.cleaned, url, "http://page.example".toList, ["shop".toList, "shop".toList]⟩ := by decide +kernel
  have enough : ∀ v c, sanitize ⟨2⟩ url relay ≠ .error (.redirectLoop v c) := fun v c h => by
    rw [run] at h
    cases h
  have deeper : clean ⟨2⟩ url relay 1 = .error (.redirectLoop "http://page.example/".toList 2) := by decide +kernel
  have lower : clean ⟨1⟩ url relay 0 = .error (.redirectLoop "http://page.example/".toList 1) := by decide +kernel
  exact ⟨enough, ((cap_only_cuts_off relay url).1 2 7 (by decide) enough).trans run, deeper, lower,
    (cap_only_cuts_off relay url).2 1 2 (by decide)⟩

end Sanitizer
end Untrack
