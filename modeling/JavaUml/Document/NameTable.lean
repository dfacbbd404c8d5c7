/-
# Names of nodes

A name table leads from names to nodes. Binding a name again replaces what it was bound to.
-/
import JavaUml.Document.Ids
import JavaUml.Entries

namespace JavaUml

/-- A table of names, in the order in which they were first bound. -/
structure NameTable where
  entries : List (String × NodeId) := []
deriving DecidableEq, Repr

namespace NameTable

/-- The table without names. -/
def empty : NameTable := {}

/-- The node that a name is bound to. -/
def resolve (table : NameTable) (name : String) : Option NodeId := table.entries.lookup name

/-- Binds a name. -/
def bind (table : NameTable) (name : String) (id : NodeId) : NameTable :=
  ⟨Entries.set name id table.entries⟩

/-- The nodes that two names are bound to, if both are bound. -/
def resolvePair (table : NameTable) (source target : String) : Option (NodeId × NodeId) := do
  return (← table.resolve source, ← table.resolve target)

/-- Whether a name is bound. -/
def contains (table : NameTable) (name : String) : Bool := (table.resolve name).isSome

/-- The number of names. -/
def size (table : NameTable) : Nat := table.entries.length

/-- Whether no name is bound. -/
def isEmpty (table : NameTable) : Bool := table.entries.isEmpty

/-- The node that a name is bound to. A name that is not bound yet is bound to a new node; if that
cannot be made, the table stays as it is. -/
def getOrBind {m : Type → Type} [Monad m] (table : NameTable) (name : String)
    (create : m NodeId) : m (NodeId × NameTable) :=
  match table.resolve name with
  | some id => pure (id, table)
  | none => do
    let id ← create
    return (id, table.bind name id)

/-! ## Small laws -/

@[simp] theorem resolve_empty (name : String) : empty.resolve name = none := rfl

@[simp] theorem resolve_bind_self (table : NameTable) (name : String) (id : NodeId) :
    (table.bind name id).resolve name = some id :=
  Entries.lookup_set_self name id table.entries

theorem resolve_bind_of_ne (table : NameTable) {name other : String} (id : NodeId)
    (h : other ≠ name) : (table.bind name id).resolve other = table.resolve other :=
  Entries.lookup_set_of_ne id table.entries h

end NameTable

end JavaUml
