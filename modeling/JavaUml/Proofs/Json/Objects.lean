/-
# The objects in a value

Every object in a value stands somewhere: the value itself may be an object, or an object stands
under a key of another one, alone or in an array.  A list of all objects with their places
(`objects`) says which object encloses which.
-/
import JavaUml.Json.Basic
import Mathlib.Data.List.Basic
import Mathlib.Tactic.Common

namespace JavaUml.Json

/-- The members of an object. -/
abbrev Members := List (String × Json)

/-- An object in a value, with the object around it and the key under which it stands there. -/
structure Place where
  around : Option (Members × String)
  members : Members

mutual

/-- The objects in a value, each before those in it. -/
def objects (around : Option (Members × String)) : Json → List Place
  | .object members => ⟨around, members⟩ :: memberObjects members members
  | .array items => itemObjects around items
  | _ => []

/-- The objects in the items of an array. -/
def itemObjects (around : Option (Members × String)) : List Json → List Place
  | [] => []
  | item :: items => objects around item ++ itemObjects around items

/-- The objects in some of the members of an object. -/
def memberObjects (outer : Members) : Members → List Place
  | [] => []
  | (key, v) :: members => objects (some (outer, key)) v ++ memberObjects outer members

end

lemma itemObjects_eq (around : Option (Members × String)) (items : List Json) :
    itemObjects around items = items.flatMap (objects around) := by
  induction items with
  | nil => rfl
  | cons item items ih => rw [itemObjects, ih, List.flatMap_cons]

lemma memberObjects_eq (outer members : Members) :
    memberObjects outer members = members.flatMap fun m => objects (some (outer, m.1)) m.2 := by
  induction members with
  | nil => rfl
  | cons member members ih => rw [memberObjects, ih, List.flatMap_cons]

/-! ## What a value is -/

/-- The text of a string. -/
def text? : Json → Option String
  | .string s => some s
  | _ => none

/-- The members of an object. -/
def members? : Json → Option Members
  | .object members => some members
  | _ => none

/-- The items of an array; any other value stands for itself. -/
def items : Json → List Json
  | .array items => items
  | v => [v]

/-! ## Depth -/

lemma depthItems_le_iff {items : List Json} {n : ℕ} :
    depthItems items ≤ n ↔ ∀ item ∈ items, item.depth ≤ n := by
  induction items with
  | nil => simp [depthItems]
  | cons item items ih => rw [depthItems, Nat.max_le, ih, List.forall_mem_cons]

lemma depthMembers_le_iff {members : Members} {n : ℕ} :
    depthMembers members ≤ n ↔ ∀ member ∈ members, member.2.depth ≤ n := by
  induction members with
  | nil => simp [depthMembers]
  | cons member members ih => rw [depthMembers, Nat.max_le, ih, List.forall_mem_cons]

end JavaUml.Json
