/-
# Classes and their relationships

The store of a class model lists the classes and interfaces in the order in which they were mapped,
the node that each name stands for, and the relationships between names. If a name is declared
again, the later declaration takes the name over; both stay in the list.
-/
import JavaUml.Declaration
import JavaUml.Document.NameTable

namespace JavaUml

/-- A class or interface with its node. -/
structure ClassEntry where
  name : String
  kind : ClassifierKind
  id : NodeId
deriving DecidableEq, Repr

/-- The kind of a relationship. -/
inductive RelationshipKind
  /-- From a class to a class that it extends. -/
  | generalization
  /-- From a class to an interface that it implements. -/
  | realization
  /-- From a type that is used in a field to the class with the field. -/
  | aggregation
deriving DecidableEq, Repr

/-- The word for a kind of relationship. -/
def RelationshipKind.word : RelationshipKind → String
  | generalization => "generalization"
  | realization => "realization"
  | aggregation => "aggregation"

/-- All kinds of relationships. -/
def RelationshipKind.all : List RelationshipKind := [.generalization, .realization, .aggregation]

/-- A relationship between two names. -/
structure Relationship where
  kind : RelationshipKind
  source : String
  target : String
deriving DecidableEq, Repr

/-- The store of a class model. -/
structure ClassStore where
  classes : List ClassEntry := []
  bindings : NameTable := .empty
  relationships : List Relationship := []
deriving DecidableEq, Repr

namespace ClassStore

/-- The store with nothing in it. -/
def empty : ClassStore := {}

/-- Adds a class, which takes over its name. -/
def addClass (store : ClassStore) (entry : ClassEntry) : ClassStore :=
  { store with
    classes := store.classes ++ [entry]
    bindings := store.bindings.bind entry.name entry.id }

/-- Adds relationships. -/
def addRelationships (store : ClassStore) (rs : List Relationship) : ClassStore :=
  { store with relationships := store.relationships ++ rs }

/-- The node that a name stands for. -/
def resolve (store : ClassStore) (name : String) : Option NodeId := store.bindings.resolve name

/-- The class that a name stands for. -/
def get? (store : ClassStore) (name : String) : Option ClassEntry := do
  let id ← store.resolve name
  store.classes.find? fun entry => entry.id == id

/-- Whether there are no relationships. Classes alone do not count. -/
def isEmpty (store : ClassStore) : Bool := store.relationships.isEmpty

end ClassStore

end JavaUml
