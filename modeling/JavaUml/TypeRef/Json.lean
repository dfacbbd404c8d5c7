/-
# Types in JSON

A type is written as an object with the key `name` and, where they say something, `arguments`,
`dimensions` and `wildcard`. It is read from such an object, or from its text.
-/
import JavaUml.Json.Decoding
import JavaUml.TypeRef.Reader

namespace JavaUml

/-- The bound that a value names: its keyword, alone or as the only key of an object. -/
def WildcardBound.ofJson? : Json → Option WildcardBound
  | .string s => ofKeyword? s
  | .object [(key, .null)] => ofKeyword? key
  | _ => none
where
  ofKeyword? (s : String) : Option WildcardBound :=
    if s = upper.keyword then some .upper else if s = lower.keyword then some .lower else none

namespace TypeRef

/-! ## Writing -/

mutual

/-- The JSON value of a type. -/
def toJson : TypeRef → Json
  | ⟨name, arguments, dimensions, wildcard⟩ =>
    .object <|
      ("name", .string name)
        :: ((if arguments.isEmpty then [] else [("arguments", .array (toJsons arguments))])
        ++ (if dimensions = 0 then [] else [("dimensions", .nat dimensions)])
        ++ match wildcard with
          | none => []
          | some bound => [("wildcard", .string bound.keyword)])

/-- The JSON values of a list of types. -/
def toJsons : List TypeRef → List Json
  | [] => []
  | t :: ts => toJson t :: toJsons ts

end

/-! ## Reading -/

/-- The parts of a type that have been read. -/
structure Draft where
  name : Option String := none
  arguments : Option (List TypeRef) := none
  dimensions : Option Nat := none
  wildcard : Option (Option WildcardBound) := none

/-- The type with the parts that have been read. Only the name has no default. -/
def Draft.build? (d : Draft) : Option TypeRef := do
  return {
    name := ← d.name
    arguments := d.arguments.getD []
    dimensions := d.dimensions.getD 0
    wildcard := d.wildcard.getD none }

/-- Stores a part that may be given only once. -/
def store? {α : Type} (slot : Option α) (value : Option α) : Option (Option α) :=
  if slot.isSome then none else value.map some

/-- The bound of a wildcard, or null for none. -/
def wildcardOfJson? : Json → Option (Option WildcardBound)
  | .null => some none
  | v => (WildcardBound.ofJson? v).map some

/-- A number of dimensions. -/
def dimensionsOfJson? : Json → Option Nat
  | .number (.natural n) => some n
  | _ => none

/-- A name. -/
def nameOfJson? : Json → Option String
  | .string s => some s
  | _ => none

mutual

/-- The type that a value denotes: a text, or an object. -/
def ofJson? : Json → Option TypeRef
  | .string s => parse? s
  | .object members => ofMembers? {} members
  | _ => none

/-- The type with the given parts and those among the members of an object. Other keys say
nothing. -/
def ofMembers? (d : Draft) : List (String × Json) → Option TypeRef
  | [] => d.build?
  | (key, v) :: members =>
    match key with
    | "name" => do
      let name ← store? d.name (nameOfJson? v)
      ofMembers? { d with name } members
    | "arguments" => do
      let arguments ← store? d.arguments (argumentsOfJson? v)
      ofMembers? { d with arguments } members
    | "dimensions" => do
      let dimensions ← store? d.dimensions (dimensionsOfJson? v)
      ofMembers? { d with dimensions } members
    | "wildcard" => do
      let wildcard ← store? d.wildcard (wildcardOfJson? v)
      ofMembers? { d with wildcard } members
    | _ => ofMembers? d members

/-- The type arguments in an array. -/
def argumentsOfJson? : Json → Option (List TypeRef)
  | .array items => ofItems? items
  | _ => none

/-- The types in a list of values. -/
def ofItems? : List Json → Option (List TypeRef)
  | [] => some []
  | v :: items => do
    let t ← ofJson? v
    let ts ← ofItems? items
    return t :: ts

end

/-- Decodes a type. A text that names no type is reported as such, every other failure as a value
of no known shape. -/
def decode (v : Json) : Json.Decoded TypeRef :=
  match ofJson? v, v with
  | some t, _ => return t
  | none, .string s => Json.misfit (.typeText s)
  | none, _ => Json.misfit (.noShape "TypeDescriptor")

/-- Decodes a type that stands in a text. The whole value is read before it is looked at. -/
def decodeReading (levels : Nat) (r : Json.Reading) : Json.Decoded TypeRef := do
  decode (← Json.orFault (r.value levels))

end TypeRef

end JavaUml
