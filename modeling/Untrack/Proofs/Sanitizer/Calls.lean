/-
  Untrack.Proofs.Sanitizer.Calls — the providers noted are what a tree of calls lists (`matched_lists_calls`). Cleaning
  a URL is a call; it notes providers, and under each of them the calls that its redirections led to. Providers are
  listed call by call, each before the calls under it.

  The levels of a tree are in its type: a `Call room` has at most `room` of them. What a run does is said once, as a
  condition on every call of a tree (`Call.Run`), and proved along the program, from redirections up to levels. The
  shape of the tree follows from it (`Call.Shaped`), and from the shape alone how many providers can be noted
  (`length_listing_le`).
-/

import Mathlib.Algebra.Order.BigOperators.Group.List
import Mathlib.Algebra.Ring.GeomSum
import Mathlib.Data.List.Perm.Subperm
import Mathlib.Tactic.Ring
import Untrack.Proofs.Sanitizer.Outcome

namespace Untrack

/-- How many redirections the providers have together. -/
def Ruleset.redirections (rules : Ruleset) : Nat := (rules.providers.map (·.redirections.length)).sum

namespace Sanitizer

/-- A provider that was noted, the URL as it stood by then, and the calls that its redirections led to. -/
structure Note (κ : Type) where
  provider : Provider
  source : Text
  calls : List κ

structure Call.Root (κ : Type) where
  url : Text
  notes : List (Note κ)

/-- A call that cleans a URL and the providers that it notes, with at most so many levels of calls. -/
def Call : (room : Nat) → Type
  | 0 => Empty
  | room + 1 => Call.Root (Call room)

/-- The provider's name, and then what the calls under it list. -/
def Note.listing {κ : Type} (below : κ → List Text) (n : Note κ) : List Text :=
  n.provider.name :: n.calls.flatMap below

namespace Call

def url : {room : Nat} → Call room → Text
  | _ + 1, c => Root.url c

def notes {room : Nat} (c : Call (room + 1)) : List (Note (Call room)) := Root.notes c

/-- The names in a tree, in the order in which they were noted. -/
def listing : {room : Nat} → Call room → List Text
  | _ + 1, c => c.notes.flatMap (Note.listing listing)

/-- A call satisfies a condition, and so do all calls in it. -/
def Everywhere (P : {room : Nat} → Call (room + 1) → Prop) : {room : Nat} → Call room → Prop
  | _ + 1, c => P c ∧ ∀ n ∈ c.notes, ∀ d ∈ n.calls, Everywhere P d

/-- What is noted in a call is a run of the providers: those that concern the URL, in their order, each with calls for
the targets of its redirections, all of them unless one is blocked. -/
structure Run (rules : Ruleset) (cap : Nat) {room : Nat} (c : Call (room + 1)) : Prop where
  resolved : ∃ v, resolve rules cap (room + 1) c.url = .ok v ∧ v.matched = c.listing
  inOrder : (c.notes.map (·.provider)).Sublist rules.providers
  concerned : ∀ n ∈ c.notes, n.provider.concerns n.source = true
  led : ∀ n ∈ c.notes, n.calls.map url <+: targets n.provider.redirections n.source

/-- The names that a call notes increase, and under each of them are no more calls than its provider has
redirections. -/
structure Shaped (rules : Ruleset) {room : Nat} (c : Call (room + 1)) : Prop where
  increasing : (c.notes.map (·.provider.name)).Pairwise Text.Before
  known : ∀ n ∈ c.notes, rules.get? n.provider.name = some n.provider
  few : ∀ n ∈ c.notes, n.calls.length ≤ n.provider.redirections.length

theorem Everywhere.imp {P Q : {room : Nat} → Call (room + 1) → Prop} {room : Nat} {c : Call room}
    (h : c.Everywhere P) (imp : ∀ {room : Nat} (d : Call (room + 1)), P d → Q d) : c.Everywhere Q := by
  induction room with
  | zero => exact nomatch c
  | succ room ih => exact ⟨imp c h.1, fun n hn d hd => ih (h.2 n hn d hd)⟩

/-- The shape of a run: the providers of a rule set are sorted, and there is a call for each target at most. -/
theorem Run.shaped {rules : Ruleset} (sorted : rules.names.Pairwise Text.Before) {cap room : Nat}
    {c : Call (room + 1)} (h : c.Run rules cap) : c.Shaped rules where
  increasing := by
    have names := List.Pairwise.sublist (h.inOrder.map (·.name)) sorted
    rwa [List.map_map] at names
  known n hn := Ruleset.get?_of_mem (Ruleset.nodup_of_increasing sorted)
    (h.inOrder.subset (List.mem_map_of_mem hn))
  few n hn := by
    have led := (h.led n hn).length_le
    rw [List.length_map] at led
    exact led.trans (length_targets_le _ _)

end Call

/-! ## Every result lists a run -/

variable {follow : Text → Except CleanFault Visit} {rules : Ruleset} {cap room : Nat}

/-- Each result of `follow` lists a tree of calls that is a run. -/
def Traced (rules : Ruleset) (cap room : Nat) (follow : Text → Except CleanFault Visit) : Prop :=
  ∀ url v, follow url = .ok v → ∃ c : Call room, c.url = url ∧ c.listing = v.matched ∧ c.Everywhere (Call.Run rules cap)

/-- Following redirections adds a call for each target, up to the first that is blocked. -/
theorem followAll_traced (hf : Traced rules cap room follow) {source : Text} {rs : List Redirection} {v w : Visit}
    (h : followAll follow source rs v = .ok w) :
    ∃ calls : List (Call room), calls.map Call.url <+: targets rs source ∧
      w.matched = v.matched ++ calls.flatMap Call.listing ∧ ∀ c ∈ calls, c.Everywhere (Call.Run rules cap) := by
  induction rs generalizing v with
  | nil =>
    rw [followAll_nil_ok.mp h]
    exact ⟨[], List.nil_prefix, by simp, fun _ hc => nomatch hc⟩
  | cons r rs ih =>
    rcases followAll_cons_ok.mp h with ⟨ht, h⟩ | ⟨target, x, ht, hx, h⟩
    · rw [targets_cons_of_none ht]
      exact ih h
    obtain ⟨c, hurl, hlist, hrun⟩ := hf target x hx
    rw [targets_cons_of_some ht]
    split at h
    · refine ⟨[c], ?_, ?_, by simpa using hrun⟩
      · rw [List.map_singleton, hurl]
        exact (List.prefix_cons_inj target).mpr List.nil_prefix
      · rw [h, List.flatMap_singleton, hlist]
    · obtain ⟨calls, hled, hmatched, hall⟩ := ih h
      refine ⟨c :: calls, ?_, ?_, List.forall_mem_cons.mpr ⟨hrun, hall⟩⟩
      · rw [List.map_cons, hurl]
        exact (List.prefix_cons_inj target).mpr hled
      · rw [hmatched, List.flatMap_cons, hlist, List.append_assoc]

theorem apply_traced (hf : Traced rules cap room follow) {p : Provider} {url : Text} {v : Visit}
    (h : apply follow p url = .ok v) :
    ∃ calls : List (Call room), calls.map Call.url <+: targets p.redirections url ∧
      v.matched = p.name :: calls.flatMap Call.listing ∧ ∀ c ∈ calls, c.Everywhere (Call.Run rules cap) := by
  rcases apply_ok.mp h with ⟨_, rfl⟩ | ⟨_, x, hx, ⟨_, rfl⟩ | ⟨_, u, _, rfl⟩⟩
  · exact ⟨[], List.nil_prefix, rfl, fun _ hc => nomatch hc⟩
  · exact followAll_traced hf hx
  · exact followAll_traced hf hx

/-- The providers that concern the URL are noted in their order. -/
theorem visit_traced (hf : Traced rules cap room follow) {ps : List Provider} {url : Text} {v : Visit}
    (h : visit follow ps url = .ok v) :
    ∃ notes : List (Note (Call room)), (notes.map (·.provider)).Sublist ps ∧
      v.matched = notes.flatMap (Note.listing Call.listing) ∧
      ∀ n ∈ notes, n.provider.concerns n.source = true ∧
        n.calls.map Call.url <+: targets n.provider.redirections n.source ∧
        ∀ c ∈ n.calls, c.Everywhere (Call.Run rules cap) := by
  induction ps generalizing url v with
  | nil =>
    rw [visit_nil_ok.mp h]
    exact ⟨[], List.Sublist.refl _, rfl, fun _ hn => nomatch hn⟩
  | cons p ps ih =>
    rcases visit_cons_ok.mp h with ⟨_, h⟩ | ⟨hc, x, hx, h⟩
    · obtain ⟨notes, inOrder, rest⟩ := ih h
      exact ⟨notes, inOrder.cons p, rest⟩
    obtain ⟨calls, hled, hmatched, hall⟩ := apply_traced hf hx
    let note : Note (Call room) := ⟨p, url, calls⟩
    have noted : note.provider.concerns note.source = true ∧
        note.calls.map Call.url <+: targets note.provider.redirections note.source ∧
        ∀ c ∈ note.calls, c.Everywhere (Call.Run rules cap) := ⟨hc, hled, hall⟩
    rcases h with ⟨_, rfl⟩ | ⟨_, w, hw, rfl⟩
    · refine ⟨[note], (List.nil_sublist ps).cons_cons p, ?_, List.forall_mem_singleton.mpr noted⟩
      rw [hmatched, List.flatMap_singleton]
      rfl
    · obtain ⟨notes, inOrder, hmatched', rest⟩ := ih hw
      refine ⟨note :: notes, inOrder.cons_cons p, ?_, List.forall_mem_cons.mpr ⟨noted, rest⟩⟩
      dsimp only
      rw [hmatched, hmatched', List.flatMap_cons]
      rfl

/-- At every level: induction on the levels left. -/
theorem resolve_traced (rules : Ruleset) (cap room : Nat) : Traced rules cap room (resolve rules cap room) := by
  induction room with
  | zero => exact fun _ _ h => nomatch h
  | succ room ih =>
    intro url v h
    obtain ⟨notes, inOrder, hmatched, hnotes⟩ := visit_traced ih h
    let c : Call (room + 1) := Call.Root.mk url notes
    have run : c.Run rules cap :=
      ⟨⟨v, h, hmatched⟩, inOrder, fun n hn => (hnotes n hn).1, fun n hn => (hnotes n hn).2.1⟩
    exact ⟨c, rfl, hmatched.symm, run, fun n hn => (hnotes n hn).2.2⟩

/-! ## What the shape of a tree comes to -/

/-- The providers that a call notes are no more than the rule set has, with whatever they count for. -/
theorem Call.Shaped.sum_le {c : Call (room + 1)} (h : c.Shaped rules) (weight : Provider → Nat) :
    (c.notes.map fun n => weight n.provider).sum ≤ (rules.providers.map weight).sum := by
  have differ : (c.notes.map (·.provider)).Nodup := by
    have names := Ruleset.nodup_of_increasing h.increasing
    rw [show c.notes.map (·.provider.name) = (c.notes.map (·.provider)).map (·.name) by rw [List.map_map]; rfl] at names
    exact names.of_map
  have known : c.notes.map (·.provider) ⊆ rules.providers := by
    intro p hp
    obtain ⟨n, hn, rfl⟩ := List.mem_map.mp hp
    exact List.mem_of_find?_eq_some (h.known n hn)
  obtain ⟨ps, perm, inOrder⟩ := differ.subperm known
  calc (c.notes.map fun n => weight n.provider).sum
      = ((c.notes.map (·.provider)).map weight).sum := by rw [List.map_map]; rfl
    _ = (ps.map weight).sum := ((perm.map weight).sum_eq).symm
    _ ≤ (rules.providers.map weight).sum := (inOrder.map weight).sum_le_sum fun _ _ => Nat.zero_le _

/-- A note lists its provider, and under it no more than its redirections and what each call lists. -/
theorem length_note_le {bound : Nat} {n : Note (Call room)} (few : n.calls.length ≤ n.provider.redirections.length)
    (below : ∀ d ∈ n.calls, d.listing.length ≤ bound) :
    (n.listing Call.listing).length ≤ 1 + n.provider.redirections.length * bound := by
  have each : (n.calls.flatMap Call.listing).length ≤ n.calls.length * bound := by
    rw [List.length_flatMap]
    calc (n.calls.map fun d => d.listing.length).sum
        ≤ (n.calls.map fun _ => bound).sum := List.sum_le_sum below
      _ = n.calls.length * bound := by simp
  rw [Note.listing, List.length_cons, Nat.add_comm]
  exact Nat.add_le_add_left (each.trans (Nat.mul_le_mul_right bound few)) 1

/-- Every call notes each provider once at most, and under all of them are no more calls than there are
redirections. -/
theorem length_listing_le {c : Call room} (h : c.Everywhere (Call.Shaped rules)) :
    c.listing.length ≤ rules.size * ∑ i ∈ Finset.range room, rules.redirections ^ i := by
  induction room with
  | zero => exact nomatch c
  | succ room ih =>
    obtain ⟨shaped, below⟩ := h
    set bound := rules.size * ∑ i ∈ Finset.range room, rules.redirections ^ i with hbound
    have notes : ∀ n ∈ c.notes, (n.listing Call.listing).length ≤ 1 + n.provider.redirections.length * bound :=
      fun n hn => length_note_le (shaped.few n hn) fun d hd => ih (below n hn d hd)
    calc c.listing.length
        = (c.notes.map fun n => (n.listing Call.listing).length).sum := List.length_flatMap
      _ ≤ (c.notes.map fun n => 1 + n.provider.redirections.length * bound).sum := List.sum_le_sum notes
      _ ≤ (rules.providers.map fun p => 1 + p.redirections.length * bound).sum :=
          shaped.sum_le fun p => 1 + p.redirections.length * bound
      _ = rules.size + rules.redirections * bound := by
          rw [List.sum_map_add, List.sum_map_mul_right]
          simp [Ruleset.size, Ruleset.redirections]
      _ = rules.size * ∑ i ∈ Finset.range (room + 1), rules.redirections ^ i := by
          rw [geom_sum_succ, hbound]
          ring

/-- Without redirections there are no calls under a provider. -/
theorem listing_increasing {c : Call room} (h : c.Everywhere (Call.Shaped rules))
    (none : ∀ p ∈ rules.providers, p.redirections = []) : c.listing.Pairwise Text.Before := by
  cases room with
  | zero => exact nomatch c
  | succ room =>
    have alone : ∀ n ∈ c.notes, n.listing Call.listing = [n.provider.name] := by
      intro n hn
      have few := h.1.few n hn
      rw [none _ (List.mem_of_find?_eq_some (h.1.known n hn))] at few
      rw [Note.listing, List.eq_nil_of_length_eq_zero (Nat.le_zero.mp few)]
      rfl
    have names : c.listing = c.notes.map (·.provider.name) := by
      show c.notes.flatMap (Note.listing Call.listing) = _
      rw [List.flatMap_congr alone, List.map_eq_flatMap]
    rw [names]
    exact h.1.increasing

/-- The providers that a result notes, for a rule set made of providers, are what a tree of calls lists, with one level
more than the cap at most. Each call of the tree is a run that comes to what it lists; the names that it notes increase,
and under each of them are no more calls than its provider has redirections. So without redirections the names noted
increase, and in general they are no more than `n * (1 + r + ⋯ + r ^ cap)` for `n` providers with `r` redirections. -/
theorem matched_lists_calls (s : Sanitizer) {ps : List Provider} {rules : Ruleset}
    (hr : Ruleset.ofProviders ps = .ok rules) (url : Text) {r : Result} (h : s.sanitize url rules = .ok r) :
    (∃ c : Call (s.cap + 1), c.url = url ∧ c.listing = r.matched ∧
      c.Everywhere (Call.Shaped rules) ∧ c.Everywhere (Call.Run rules s.cap)) ∧
    ((∀ p ∈ rules.providers, p.redirections = []) → r.matched.Pairwise Text.Before) ∧
    r.matched.length ≤ rules.size * ∑ i ∈ Finset.range (s.cap + 1), rules.redirections ^ i := by
  obtain ⟨v, hv, rfl⟩ := sanitize_ok h
  obtain ⟨c, hurl, hlist, run⟩ := resolve_traced rules s.cap (s.cap + 1) url v hv
  have shaped : c.Everywhere (Call.Shaped rules) := run.imp fun d hd => hd.shaped (Ruleset.ofProviders_ok_iff.mp hr).2
  refine ⟨⟨c, hurl, hlist, shaped, run⟩, fun none => ?_, ?_⟩
  · exact hlist ▸ listing_increasing shaped none
  · exact hlist ▸ length_listing_le shaped

/-- Pages that lead to others, one of them to two, and a provider for all pages. -/
def crossroads : Ruleset := ⟨[
  { Provider.concerning "east" "//east\\." with
    redirections := [⟨"east#0".toList, .ofSource "a=([^&]*)"⟩, ⟨"east#1".toList, .ofSource "b=([^&]*)"⟩] },
  Provider.concerning "north" "example",
  { Provider.concerning "west" "//west\\." with redirections := [⟨"west#0".toList, .ofSource "c=([^&]*)"⟩] }]⟩

/-- The same providers, leading nowhere. -/
def deadEnds : Ruleset := ⟨crossroads.providers.map fun p => { p with redirections := [] }⟩

/-- Two calls under the first provider, of which the first holds another: ten names on three levels, of 39 that there
may be. -/
theorem crossroads_called :
    let url := "http://east.example/?a=http://west.example/?c=http://east.example&b=http%3A//west.example".toList
    let names := ["east", "east", "north", "west", "east", "north", "north", "west", "north", "west"].map String.toList
    Ruleset.ofProviders crossroads.providers = .ok crossroads ∧
      sanitize ⟨2⟩ url crossroads = .ok ⟨.cleaned, url, "http://west.example".toList, names⟩ ∧
      (∃ c : Call 3, c.url = url ∧ c.listing = names ∧ c.Everywhere (Call.Shaped crossroads)) ∧ names.length ≤ 39 ∧
      (∀ p ∈ deadEnds.providers, p.redirections = []) ∧
      ∃ r, sanitize ⟨0⟩ url deadEnds = .ok r ∧ r.matched.length = 3 ∧ r.matched.Pairwise Text.Before := by
  intro url names
  have made : Ruleset.ofProviders crossroads.providers = .ok crossroads :=
    Ruleset.ofProviders_sorted (by decide +kernel) (by decide +kernel)
  have made' : Ruleset.ofProviders deadEnds.providers = .ok deadEnds :=
    Ruleset.ofProviders_sorted (by decide +kernel) (by decide +kernel)
  have run : sanitize ⟨2⟩ url crossroads = .ok ⟨.cleaned, url, "http://west.example".toList, names⟩ := by
    decide +kernel
  have run' : sanitize ⟨0⟩ url deadEnds = .ok ⟨.unchanged, url, url, ["east", "north", "west"].map String.toList⟩ := by
    decide +kernel
  have nowhere : ∀ p ∈ deadEnds.providers, p.redirections = [] := by decide +kernel
  obtain ⟨⟨c, hurl, hlist, shaped, _⟩, _, few⟩ := matched_lists_calls ⟨2⟩ made url run
  exact ⟨made, run, ⟨c, hurl, hlist, shaped⟩, few, nowhere, _, run', rfl,
    (matched_lists_calls ⟨0⟩ made' url run').2.1 nowhere⟩

end Sanitizer
end Untrack
