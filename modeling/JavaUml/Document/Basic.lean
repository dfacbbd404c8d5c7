/-
# Documents

A document is a tree of nodes, kept in an array in the order in which they were made. The node at
index `i` has the `i`-th identifier after that of the root, so that it is found without a search.
Nodes are only added: each new node goes to the end of the array and to the end of the children of
its parent, which is there already.

A field may hold the name of a type that is not known yet. After all classes are there, the names
are replaced by references.
-/
import JavaUml.Document.Error
import JavaUml.Document.NameTable
import JavaUml.Document.Vocabulary

namespace JavaUml

/-- The value of a field. -/
inductive Value
  | text (s : String)
  | flag (b : Bool)
  /-- A reference to a node. -/
  | reference (id : NodeId)
  /-- A name that becomes a reference if it is bound, and stays a text if not. -/
  | symbol (name : String)
deriving DecidableEq, Repr

/-- The fields of a node, in order, by their keys. -/
abbrev FieldList := List (String × Value)

/-- A node. The collections in `slots` are written even if they have no children; every child is in
one of them. -/
structure Node where
  id : NodeId
  kind : NodeKind
  name : Option String := none
  parent : Option NodeId := none
  slot : Option Slot := none
  slots : List Slot := []
  children : List NodeId := []
  fields : FieldList := []
deriving DecidableEq, Repr

namespace Node

/-- The value of a field. -/
def field? (node : Node) (key : String) : Option Value := node.fields.lookup key

/-- Sets a field, in its place if it is there. -/
def setField (key : String) (value : Value) (node : Node) : Node :=
  { node with fields := Entries.set key value node.fields }

/-- Makes a collection appear, if it does not yet. -/
def declareSlot (slot : Slot) (node : Node) : Node :=
  if slot ∈ node.slots then node else { node with slots := node.slots ++ [slot] }

/-- Adds a child to a collection. -/
def adopt (slot : Slot) (child : NodeId) (node : Node) : Node :=
  let node := node.declareSlot slot
  { node with children := node.children ++ [child] }

end Node

/-- What a new node starts with. -/
structure NodeDraft where
  kind : NodeKind
  name : Option String := none
  slots : List Slot := []
  fields : FieldList := []
deriving DecidableEq, Repr

/-- A document. -/
structure Document where
  ids : IdAllocator
  nodes : Array Node
  nonempty : 0 < nodes.size

namespace Document

/-- The document with a root and nothing else, if there is an identifier for the root. -/
def new (ids : IdAllocator) (kind : NodeKind) (name : String) : Except ModelError Document :=
  match ids.next? with
  | some (id, ids) => .ok ⟨ids, #[{ id, kind, name := some name }], by simp⟩
  | none => .error (.idsExhausted ids.seed)

/-- The root node. -/
def rootNode (doc : Document) : Node :=
  have := doc.nonempty
  doc.nodes[0]

/-- The identifier of the root. -/
def root (doc : Document) : NodeId := doc.rootNode.id

/-- The number of nodes. -/
def size (doc : Document) : Nat := doc.nodes.size

/-- Where a node is kept, if it is in the document. -/
def index? (doc : Document) (id : NodeId) : Option Nat :=
  if doc.root.value ≤ id.value ∧ id.value - doc.root.value < doc.size then
    some (id.value - doc.root.value)
  else none

/-- A node of the document. -/
def get? (doc : Document) (id : NodeId) : Option Node :=
  (doc.index? id).bind fun i => doc.nodes[i]?

/-- Changes the node at an index. -/
def modifyAt (doc : Document) (i : Nat) (f : Node → Node) : Document :=
  { doc with nodes := doc.nodes.modify i f, nonempty := by simpa using doc.nonempty }

/-- Changes a node. -/
def modify (doc : Document) (id : NodeId) (f : Node → Node) : Except ModelError Document :=
  match doc.index? id with
  | some i => .ok (doc.modifyAt i f)
  | none => .error (.unknownNode id)

/-- Puts a node at the end. -/
def push (doc : Document) (ids : IdAllocator) (node : Node) : Document :=
  ⟨ids, doc.nodes.push node, by simp⟩

/-- Adds a node to a collection of its parent. An unknown parent costs no identifier. -/
def attach (doc : Document) (parent : NodeId) (slot : Slot) (draft : NodeDraft) :
    Except ModelError (NodeId × Document) :=
  match doc.index? parent with
  | none => .error (.unknownNode parent)
  | some i =>
    match doc.ids.next? with
    | none => .error (.idsExhausted doc.ids.seed)
    | some (id, ids) =>
      let node : Node :=
        { id, kind := draft.kind, name := draft.name, parent := some parent, slot := some slot,
          slots := draft.slots, fields := draft.fields }
      .ok (id, (doc.push ids node).modifyAt i (Node.adopt slot id))

/-- Adds a node without fields. -/
def addChild (doc : Document) (parent : NodeId) (slot : Slot) (kind : NodeKind)
    (name : Option String) : Except ModelError (NodeId × Document) :=
  doc.attach parent slot { kind, name }

/-- Makes a collection of a node appear even without children. -/
def declareSlot (doc : Document) (id : NodeId) (slot : Slot) : Except ModelError Document :=
  doc.modify id (Node.declareSlot slot)

/-- Sets a field of a node. -/
def setField (doc : Document) (id : NodeId) (key : String) (value : Value) :
    Except ModelError Document :=
  doc.modify id (Node.setField key value)

/-- The children of a node. -/
def childrenOf (doc : Document) (id : NodeId) : List Node :=
  match doc.get? id with
  | some node => node.children.filterMap doc.get?
  | none => []

/-- The children of a node in a collection. -/
def childrenIn (doc : Document) (id : NodeId) (slot : Slot) : List Node :=
  (doc.childrenOf id).filter fun child => child.slot == some slot

/-! ## Walking through the tree -/

/-- Walks through the nodes on a stack and below, each before its children, for a number of steps.
Identifiers that are not in the document are passed over. -/
def walk (doc : Document) : Nat → List NodeId → List NodeId
  | 0, _ => []
  | _, [] => []
  | steps + 1, id :: stack =>
    match doc.get? id with
    | some node => id :: doc.walk steps (node.children ++ stack)
    | none => doc.walk steps stack

/-- A node and everything below it, each node before its children. As no node is met twice, there
are no more steps than nodes. -/
def subtree (doc : Document) (id : NodeId) : List NodeId := doc.walk doc.size [id]

end Document

end JavaUml
