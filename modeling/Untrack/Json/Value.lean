/-
  Untrack.Json.Value — JSON documents as values. Whole numbers and real numbers are different kinds: `1` is
  whole and `1.0` is real. The fields of an object keep their order.
-/

import Untrack.Text.Basic
import Untrack.Number.Binary64

namespace Untrack.Json

inductive Value
  | null
  | bool (b : Bool)
  | whole (n : Int)
  | real (x : Binary64)
  | text (t : Text)
  | list (items : List Value)
  | object (fields : List (Text × Value))
  deriving Inhabited

namespace Value

/-- The name of a value's kind, as messages give it. -/
def kind : Value → String
  | null => "NoneType"
  | bool _ => "bool"
  | whole _ => "int"
  | real _ => "float"
  | text _ => "str"
  | list _ => "list"
  | object _ => "dict"

/-- Whether a value counts as not given: null, false, zero, or nothing in it. -/
def isVoid : Value → Bool
  | null => true
  | bool b => !b
  | whole n => n == 0
  | real x => x.isZero
  | text t => t.isEmpty
  | list items => items.isEmpty
  | object fields => fields.isEmpty

end Value

abbrev Fields := List (Text × Value)

namespace Fields

def get? (fields : Fields) (name : Text) : Option Value := List.lookup name fields

/-- The fields with one more: a name that is there already keeps its place and takes the new value. -/
def put (fields : Fields) (name : Text) (v : Value) : Fields :=
  if fields.any (·.1 == name) then fields.map fun f => if f.1 == name then (name, v) else f
  else fields ++ [(name, v)]

def names (fields : Fields) : List Text := fields.map (·.1)

theorem names_put (fields : Fields) (name : Text) (v : Value) :
    names (put fields name v) = if name ∈ names fields then names fields else names fields ++ [name] := by
  by_cases h : name ∈ names fields
  · have h' : fields.any (·.1 == name) = true := by
      obtain ⟨f, hf, hn⟩ := List.mem_map.1 h
      exact List.any_eq_true.2 ⟨f, hf, by simp [hn]⟩
    rw [put, if_pos h', if_pos h, names, List.map_map]
    refine List.map_congr_left fun f _ => ?_
    by_cases hf : f.1 = name <;> simp [hf]
  · have h' : fields.any (·.1 == name) = false := by
      refine Bool.eq_false_iff.2 fun hc => h ?_
      obtain ⟨f, hf, hn⟩ := List.any_eq_true.1 hc
      exact List.mem_map.2 ⟨f, hf, by simpa using hn⟩
    rw [put, if_neg (by simp [h']), if_neg h]
    simp [names]

/-- Names that were all different stay so. -/
theorem nodup_put {fields : Fields} (name : Text) (v : Value) (h : (names fields).Nodup) :
    (names (put fields name v)).Nodup := by
  rw [names_put]
  split
  · exact h
  · rename_i hn
    refine List.nodup_append.2 ⟨h, by simp, ?_⟩
    intro a ha b hb
    simp only [List.mem_singleton] at hb
    rintro rfl
    exact hn (hb ▸ ha)

end Fields
end Untrack.Json
