/-
# Registries

A registry keeps the edges of a diagram and the names at their ends. A name is looked up in a table
of kinds, in which it has the kind that it was first given. The order in which the names came is
kept beside the table.
-/
import JavaUml.Annotation
import JavaUml.Entries

namespace JavaUml

/-- Names with their kinds, and edges between them. -/
structure Registry (κ : Type) where
  /-- The table of kinds. Its order does not matter. -/
  kinds : List (String × κ) := []
  /-- The names, in the order in which they came. -/
  names : List String := []
  edges : List Edge := []
deriving DecidableEq, Repr

namespace Registry

variable {κ : Type}

/-- The registry with nothing in it. -/
def empty : Registry κ := {}

/-- The kind of a name, if it has one. -/
def kind? (r : Registry κ) (name : String) : Option κ := r.kinds.lookup name

/-- Gives a name a kind, unless it has one. -/
def register (r : Registry κ) (name : String) (kind : κ) : Registry κ :=
  if (r.kind? name).isSome then r
  else { r with names := r.names ++ [name], kinds := Entries.set name kind r.kinds }

/-- Adds an edge. Names that have no kind get one, which `kindOf` tells. -/
def connect (kindOf : String → κ) (r : Registry κ) (e : Edge) : Registry κ :=
  let r := (r.register e.source (kindOf e.source)).register e.target (kindOf e.target)
  { r with edges := r.edges ++ [e] }

/-- The names with their kinds, in the order of the names. -/
def entries (r : Registry κ) : List (String × κ) :=
  r.names.filterMap fun name => (r.kind? name).map (name, ·)

/-- The number of names that have a kind. -/
def size (r : Registry κ) : Nat := r.kinds.length

/-- Whether there are no edges. Names alone do not count. -/
def isEmpty (r : Registry κ) : Bool := r.edges.isEmpty

end Registry

end JavaUml
