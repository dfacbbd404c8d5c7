/-
# JSON values

The members of an object keep their order, and a key may occur twice: what is written is exactly
what is in the value.
-/
import JavaUml.Json.Number

/-- A JSON value with ordered members. -/
inductive JavaUml.Json where
  | null
  | boolean (b : Bool)
  | number (n : Json.Number)
  | string (s : String)
  | array (items : List Json)
  | object (members : List (String × Json))
deriving Inhabited

namespace JavaUml.Json

/-- A whole number. -/
def nat (n : Nat) : Json := .number (.natural n)

/-- An array of strings. -/
def strings (ss : List String) : Json := .array (ss.map .string)

/-! ## Depth -/

mutual

/-- How deep the arrays and objects of a value are nested. -/
def depth : Json → Nat
  | .array items => 1 + depthItems items
  | .object members => 1 + depthMembers members
  | _ => 0

/-- The greatest depth among the items of an array. -/
def depthItems : List Json → Nat
  | [] => 0
  | item :: items => max (depth item) (depthItems items)

/-- The greatest depth among the members of an object. -/
def depthMembers : List (String × Json) → Nat
  | [] => 0
  | (_, value) :: members => max (depth value) (depthMembers members)

end

end JavaUml.Json
