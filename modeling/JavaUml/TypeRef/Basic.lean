/-
# Declared types

The type of a field, a parameter or a method as it is declared: a name, type arguments, array
dimensions, and the bound if it is a bounded wildcard. A wildcard `? extends T` is `T` with the
bound `extends`; a wildcard without a bound has the name `?`.
-/

namespace JavaUml

/-- The bound of a wildcard. -/
inductive WildcardBound
  /-- The wildcard `? extends T`. -/
  | upper
  /-- The wildcard `? super T`. -/
  | lower
deriving DecidableEq, Repr

/-- The keyword of a bound. -/
def WildcardBound.keyword : WildcardBound → String
  | .upper => "extends"
  | .lower => "super"

/-- A declared type. -/
structure TypeRef where
  name : String
  arguments : List TypeRef := []
  dimensions : Nat := 0
  wildcard : Option WildcardBound := none
deriving Inhabited, Repr

namespace TypeRef

/-- The type with a name and nothing else. -/
def named (name : String) : TypeRef := { name }

/-- Adds array dimensions. -/
def addDimensions (t : TypeRef) (n : Nat) : TypeRef :=
  { t with dimensions := t.dimensions + n }

/-! ## Equality -/

mutual

/-- Whether two types are the same. -/
def same : TypeRef → TypeRef → Bool
  | ⟨name, arguments, dimensions, wildcard⟩, ⟨name', arguments', dimensions', wildcard'⟩ =>
    name == name' && sameAll arguments arguments' && dimensions == dimensions'
      && wildcard == wildcard'

/-- Whether two lists of types are the same. -/
def sameAll : List TypeRef → List TypeRef → Bool
  | [], [] => true
  | t :: ts, u :: us => same t u && sameAll ts us
  | _, _ => false

end

mutual

theorem same_iff : ∀ {t u : TypeRef}, same t u = true ↔ t = u
  | ⟨n, a, d, w⟩, ⟨n', a', d', w'⟩ => by
    simp [same, @sameAll_iff a, and_assoc]

theorem sameAll_iff : ∀ {ts us : List TypeRef}, sameAll ts us = true ↔ ts = us
  | [], [] => by simp [sameAll]
  | [], _ :: _ => by simp [sameAll]
  | _ :: _, [] => by simp [sameAll]
  | t :: ts, u :: us => by simp [sameAll, @same_iff t, @sameAll_iff ts]

end

instance : DecidableEq TypeRef := fun t u =>
  decidable_of_iff (same t u = true) same_iff

/-! ## Classes of types -/

/-- The names of the primitive types. -/
def primitiveNames : List String :=
  ["boolean", "byte", "char", "short", "int", "long", "float", "double", "void"]

/-- A type of primitive values, or an array of them. -/
def isPrimitive (t : TypeRef) : Bool :=
  t.wildcard.isNone && primitiveNames.contains t.name

/-- A type whose values refer to a class or interface. An array counts as its elements do. -/
def isReference (t : TypeRef) : Bool :=
  !t.isPrimitive && t.name != "?"

mutual

/-- The names of the reference types in a type, the type itself before its arguments. What is not a
reference is left out with its arguments. -/
def referenceNames : TypeRef → List String
  | ⟨name, arguments, dimensions, wildcard⟩ =>
    if isReference ⟨name, arguments, dimensions, wildcard⟩ then
      name :: argumentReferenceNames arguments
    else []

/-- The names of the reference types in a list of types. -/
def argumentReferenceNames : List TypeRef → List String
  | [] => []
  | t :: ts => referenceNames t ++ argumentReferenceNames ts

end

/-! ## Text -/

/-- The beginning of a bounded wildcard. -/
def boundChars : Option WildcardBound → List Char
  | none => []
  | some bound => '?' :: ' ' :: (bound.keyword.toList ++ [' '])

/-- The brackets of an array type. -/
def bracketChars : Nat → List Char
  | 0 => []
  | n + 1 => '[' :: ']' :: bracketChars n

mutual

/-- The characters of a type. -/
def chars : TypeRef → List Char
  | ⟨name, arguments, dimensions, wildcard⟩ =>
    boundChars wildcard ++ name.toList ++ argumentChars arguments ++ bracketChars dimensions

/-- Type arguments between their brackets, or nothing if there are none. -/
def argumentChars : List TypeRef → List Char
  | [] => []
  | t :: ts => '<' :: (chars t ++ moreArgumentChars ts)

/-- The type arguments after the first one, and the closing bracket. -/
def moreArgumentChars : List TypeRef → List Char
  | [] => ['>']
  | t :: ts => ',' :: ' ' :: (chars t ++ moreArgumentChars ts)

end

/-- The text of a type, such as `Map<String, ? extends Shape[]>`. -/
def text (t : TypeRef) : String := String.ofList t.chars

end TypeRef

end JavaUml
