/-
# Replacing names by references

Types are first written down as names. When all classes are known, the names that stand for a class
become references to it; the others stay.
-/
import JavaUml.Document.Basic

namespace JavaUml

/-- Replaces a name by a reference if it is bound. -/
def Value.resolve (table : NameTable) : Value → Value
  | .symbol name =>
    match table.resolve name with
    | some id => .reference id
    | none => .symbol name
  | value => value

/-- A name that is bound. -/
def Value.isResolvable (table : NameTable) : Value → Bool
  | .symbol name => table.contains name
  | _ => false

namespace Node

/-- Replaces the names in the fields of a node. -/
def resolve (table : NameTable) (node : Node) : Node :=
  { node with fields := node.fields.map fun field => (field.1, field.2.resolve table) }

/-- The number of fields that hold a name which is bound. -/
def resolvableCount (table : NameTable) (node : Node) : Nat :=
  node.fields.countP fun field => field.2.isResolvable table

end Node

namespace Document

/-- Replaces the names in the fields of a node, and adds their number to a count. -/
def resolveNode (table : NameTable) (state : Document × Nat) (id : NodeId) : Document × Nat :=
  let (doc, count) := state
  match doc.index? id, doc.get? id with
  | some i, some node =>
    (doc.modifyAt i (Node.resolve table), count + node.resolvableCount table)
  | _, _ => (doc, count)

/-- Replaces the names in a node and everything below it, and tells how many were replaced. -/
def resolveSymbols (doc : Document) (root : NodeId) (table : NameTable) : Document × Nat :=
  (doc.subtree root).foldl (resolveNode table) (doc, 0)

end Document

end JavaUml
