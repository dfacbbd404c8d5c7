/-
# Checking a document

The nodes must be in the order of their identifiers, every node but the first must have a parent
that lists it once, and no node may list a child of another.
-/
import JavaUml.Document.Basic

namespace JavaUml.Document

/-- Stops with a broken rule unless a condition holds. -/
def require (condition : Bool) (v : Violation) : Except ModelError Unit :=
  if condition then .ok () else .error (.integrity v)

/-- A node that must be there. -/
def expect (doc : Document) (id : NodeId) : Except ModelError Node :=
  match doc.get? id with
  | some node => .ok node
  | none => .error (.unknownNode id)

/-- Checks that a node comes after the node before it. -/
def checkOrder (before : Option Node) (node : Node) : Except ModelError Unit :=
  require (before.all fun previous => previous.id.value < node.id.value) (.outOfOrder node.id)

/-- Checks that a node is listed by its parent. Only the first node may be without one. -/
def checkParent (doc : Document) (before : Option Node) (node : Node) : Except ModelError Unit :=
  match node.parent with
  | none => require before.isNone (.noParent node.id)
  | some parent => do
    let times := (← doc.expect parent).children.count node.id
    require (times == 1) (.listedTimes node.id times parent)

/-- Checks that a child of a node has this node as its parent. -/
def checkChild (doc : Document) (node : Node) (child : NodeId) : Except ModelError Unit := do
  require ((← doc.expect child).parent == some node.id) (.notParent node.id child)

/-- Checks a node. -/
def checkNode (doc : Document) (before : Option Node) (node : Node) : Except ModelError Unit := do
  checkOrder before node
  doc.checkParent before node
  node.children.forM (doc.checkChild node)

/-- Checks nodes in order. -/
def checkNodes (doc : Document) (before : Option Node) : List Node → Except ModelError Unit
  | [] => .ok ()
  | node :: nodes => do
    doc.checkNode before node
    doc.checkNodes (some node) nodes

/-- Checks a document. -/
def check (doc : Document) : Except ModelError Unit := doc.checkNodes none doc.nodes.toList

end JavaUml.Document
